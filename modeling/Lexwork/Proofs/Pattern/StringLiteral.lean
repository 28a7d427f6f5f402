import Lexwork.Pattern.StringLiteral
import Lexwork.Proofs.Number.Decimal

/-!
# The grammar of string literals

A body of a literal is a row of items: a character other than the quote and the
backslash, or a backslash with one of four letters.  What a body stands for is
said of the body alone.  A text starts with a literal exactly if it starts with
a body in quotes; there is never a second such body, and what follows the closing
quote has no part in what the literal stands for, because no four digits reach
past that quote.
-/

namespace Lexwork

namespace StringLiteral

/-- A row of items, each a character that needs no escape or an escape of two characters. -/
inductive IsBody : Text → Prop
  | nil : IsBody []
  | plain {c : Char} {rest : Text} (notQuote : c ≠ '"') (notBackslash : c ≠ '\\')
      (later : IsBody rest) : IsBody (c :: rest)
  | escape {letter : Char} {rest : Text} (listed : letter ∈ ['t', 'r', 'n', 'u'])
      (later : IsBody rest) : IsBody ('\\' :: letter :: rest)

/-- Four characters that are decimal digits. -/
structure IsCode (digits : Text) : Prop where
  four : digits.length = 4
  decimal : ∀ d ∈ digits, d.isDigit = true

/-- A text starts with four decimal digits. -/
def StartsWithCode (text : Text) : Prop :=
  ∃ digits behind, text = digits ++ behind ∧ IsCode digits

/-- The letters that name a character, with that character. -/
def namedEscapes : List (Char × Char) :=
  [('t', '\t'), ('r', '\r'), ('n', '\n')]

/-- What a body stands for, read from left to right. -/
inductive Decodes : Text → Text → Prop
  | nil : Decodes [] []
  | plain {c : Char} {rest content : Text} (notBackslash : c ≠ '\\')
      (later : Decodes rest content) : Decodes (c :: rest) (c :: content)
  | named {letter c : Char} {rest content : Text} (listed : (letter, c) ∈ namedEscapes)
      (later : Decodes rest content) : Decodes ('\\' :: letter :: rest) (c :: content)
  | code {digits rest content : Text} {c : Char} (code : IsCode digits)
      (numbered : c.toNat = Text.digitsValue digits) (later : Decodes rest content) :
      Decodes ('\\' :: 'u' :: (digits ++ rest)) (c :: content)
  | bare {rest content : Text} (other : ¬ StartsWithCode rest) (later : Decodes rest content) :
      Decodes ('\\' :: 'u' :: rest) ('\\' :: 'u' :: content)

def inQuotes (body : Text) : Text :=
  '"' :: (body ++ ['"'])

theorem IsCode.exists_digits {digits : Text} (code : IsCode digits) :
    ∃ a b c d, digits = [a, b, c, d] ∧ [a, b, c, d].all Char.isDigit = true := by
  obtain ⟨four, decimal⟩ := code
  match digits, four with
  | [a, b, c, d], _ => exact ⟨a, b, c, d, rfl, List.all_eq_true.mpr decimal⟩

/-- Four digits denote a number below ten thousand, and every such number is a character's. -/
theorem IsCode.toNat_ofNat {digits : Text} (code : IsCode digits) :
    (Char.ofNat (Text.digitsValue digits)).toNat = Text.digitsValue digits := by
  obtain ⟨a, b, c, d, rfl, all⟩ := code.exists_digits
  simp only [List.all_cons, List.all_nil, Bool.and_true, Bool.and_eq_true, Text.isDigit_iff] at all
  have zero : '0'.toNat = 48 := rfl
  have small : Text.digitsValue [a, b, c, d] < 10000 := by
    simp only [Text.digitsValue, Nat.ofDigitChars_cons, Nat.ofDigitChars_nil, zero]
    omega
  have valid : (Text.digitsValue [a, b, c, d]).isValidChar := .inl (by omega)
  rw [Char.ofNat, dif_pos valid]
  rfl

theorem plain_of_isDigit {d : Char} (digit : d.isDigit = true) : d ≠ '"' ∧ d ≠ '\\' := by
  constructor
  · rintro rfl
    cases digit
  · rintro rfl
    cases digit

/-- No code reaches past a closing quote. -/
theorem StartsWithCode.of_append_quote {body rest : Text}
    (starts : StartsWithCode (body ++ '"' :: rest)) : StartsWithCode body := by
  obtain ⟨digits, behind, whole, code⟩ := starts
  rcases List.append_eq_append_iff.mp whole with ⟨between, split, tail⟩ | ⟨between, split, _⟩
  · cases between with
    | nil => exact ⟨digits, [], by simpa using split.symm, code⟩
    | cons d between =>
        -- The quote would be one of the digits.
        obtain ⟨rfl, _⟩ := List.cons.inj tail
        have digit : '"'.isDigit = true := code.decimal '"' (by simp [split])
        cases digit
  · exact ⟨digits, between, split, code⟩

theorem escapeChar?_eq_some_iff {letter c : Char} :
    escapeChar? letter = some c ↔ (letter, c) ∈ namedEscapes := by
  unfold escapeChar?
  split <;> simp_all [namedEscapes, eq_comm]

theorem readBody?_plain {c : Char} (notQuote : c ≠ '"') (notBackslash : c ≠ '\\') (rest : Text) :
    readBody? (c :: rest) = (readBody? rest).map (.extend [c] [c]) := by
  rw [readBody?]
  · exact notQuote
  · exact fun _ _ _ _ _ same _ => notBackslash same
  · exact fun _ same _ => notBackslash same
  · exact fun _ _ same _ => notBackslash same
  · exact fun same _ => notBackslash same

theorem readBody?_named {letter c : Char} (listed : (letter, c) ∈ namedEscapes) (rest : Text) :
    readBody? ('\\' :: letter :: rest) = (readBody? rest).map (.extend ['\\', letter] [c]) := by
  have found := escapeChar?_eq_some_iff.mpr listed
  have other : letter ≠ 'u' := by
    rintro rfl
    cases found
  rw [readBody?, found]
  · exact fun _ _ _ _ _ same _ => other same
  · exact other

theorem readBody?_code {digits : Text} (code : IsCode digits) (rest : Text) :
    readBody? ('\\' :: 'u' :: (digits ++ rest)) =
      (readBody? rest).map
        (.extend ('\\' :: 'u' :: digits) [Char.ofNat (Text.digitsValue digits)]) := by
  obtain ⟨a, b, c, d, rfl, all⟩ := code.exists_digits
  simp only [List.cons_append, List.nil_append]
  rw [readBody?, if_pos all]

/-- Without a code behind it, an escape by number stands for itself. -/
theorem readBody?_bare {rest : Text} (other : ¬ StartsWithCode rest) :
    readBody? ('\\' :: 'u' :: rest) =
      (readBody? rest).map (.extend ['\\', 'u'] ['\\', 'u']) := by
  match rest with
  | a :: b :: c :: d :: rest =>
      have mixed : ¬ [a, b, c, d].all Char.isDigit = true := fun all =>
        other ⟨[a, b, c, d], rest, rfl, rfl, List.all_eq_true.mp all⟩
      rw [readBody?, if_neg mixed]
  | [] => rfl
  | [a] => rfl
  | [a, b] => rfl
  | [a, b, c] => rfl

/-! ## Whole bodies -/

theorem IsBody.of_plain {c : Char} {rest : Text} (isBody : IsBody (c :: rest))
    (notBackslash : c ≠ '\\') : c ≠ '"' ∧ IsBody rest := by
  cases isBody with
  | plain notQuote _ later => exact ⟨notQuote, later⟩
  | escape listed later => exact absurd rfl notBackslash

theorem IsBody.of_escape {letter : Char} {rest : Text}
    (isBody : IsBody ('\\' :: letter :: rest)) :
    letter ∈ ['t', 'r', 'n', 'u'] ∧ IsBody rest := by
  cases isBody with
  | plain _ notBackslash later => exact absurd rfl notBackslash
  | escape listed later => exact ⟨listed, later⟩

theorem isBody_digits_append {digits rest : Text} (decimal : ∀ d ∈ digits, d.isDigit = true) :
    IsBody (digits ++ rest) ↔ IsBody rest := by
  induction digits with
  | nil => rfl
  | cons d digits ih =>
      obtain ⟨notQuote, notBackslash⟩ := plain_of_isDigit (decimal d (List.mem_cons_self ..))
      have later := ih fun e inside => decimal e (List.mem_cons_of_mem d inside)
      constructor
      · intro isBody
        exact later.mp (isBody.of_plain notBackslash).2
      · intro isBody
        exact .plain notQuote notBackslash (later.mpr isBody)

theorem exists_decodes {body : Text} (isBody : IsBody body) : ∃ content, Decodes body content := by
  -- The induction is on the length: a code takes several items at once.
  generalize size : body.length = n
  induction n using Nat.strongRecOn generalizing body with
  | ind n ih =>
      cases isBody with
      | nil => exact ⟨[], .nil⟩
      | @plain c rest notQuote notBackslash later =>
          obtain ⟨content, decodes⟩ := ih rest.length (by simp [← size]) later rfl
          exact ⟨c :: content, .plain notBackslash decodes⟩
      | @escape letter rest listed later =>
          by_cases numbered : letter = 'u' ∧ StartsWithCode rest
          · obtain ⟨rfl, digits, behind, rfl, code⟩ := numbered
            have shorter : behind.length < n := by
              simp only [← size, List.length_cons, List.length_append]
              omega
            obtain ⟨content, decodes⟩ :=
              ih behind.length shorter ((isBody_digits_append code.decimal).mp later) rfl
            exact ⟨_, .code code code.toNat_ofNat decodes⟩
          · have shorter : rest.length < n := by
              simp only [← size, List.length_cons]
              omega
            obtain ⟨content, decodes⟩ := ih rest.length shorter later rfl
            simp only [List.mem_cons, List.not_mem_nil, or_false] at listed
            rcases listed with rfl | rfl | rfl | rfl
            · exact ⟨'\t' :: content, .named (by decide) decodes⟩
            · exact ⟨'\r' :: content, .named (by decide) decodes⟩
            · exact ⟨'\n' :: content, .named (by decide) decodes⟩
            · exact ⟨_, .bare (fun starts => numbered ⟨rfl, starts⟩) decodes⟩

/-- A body before a quote is read whole, with what it stands for. -/
theorem Decodes.readBody? {body content : Text} (decodes : Decodes body content)
    (isBody : IsBody body) (rest : Text) :
    readBody? (body ++ '"' :: rest) = some ⟨body ++ ['"'], content⟩ := by
  induction decodes with
  | nil => rfl
  | plain notBackslash later ih =>
      obtain ⟨notQuote, isBody⟩ := isBody.of_plain notBackslash
      rw [List.cons_append, readBody?_plain notQuote notBackslash, ih isBody]
      rfl
  | named listed later ih =>
      rw [List.cons_append, List.cons_append, readBody?_named listed, ih isBody.of_escape.2]
      rfl
  | @code digits behind content c code numbered later ih =>
      have inner := (isBody_digits_append code.decimal).mp isBody.of_escape.2
      have same : Char.ofNat (Text.digitsValue digits) = c := by
        rw [← numbered, Char.ofNat_toNat]
      rw [List.cons_append, List.cons_append, List.append_assoc, readBody?_code code, ih inner,
        same]
      simp [Body.extend]
  | bare other later ih =>
      have past : ¬ StartsWithCode (_ ++ '"' :: rest) := fun starts => other starts.of_append_quote
      rw [List.cons_append, List.cons_append, readBody?_bare past, ih isBody.of_escape.2]
      rfl

/-- What is read is a body before a quote. -/
theorem exists_body_of_readBody? {text : Text} {read : Body} (found : readBody? text = some read) :
    ∃ body rest, IsBody body ∧ text = body ++ '"' :: rest := by
  fun_induction readBody? text generalizing read with
  | case1 => cases found
  | case2 rest => exact ⟨[], rest, .nil, rfl⟩
  | case3 a b c d rest digits all =>
      rename_i ih
      obtain ⟨inner, later, _⟩ := Option.map_eq_some_iff.mp found
      obtain ⟨body, behind, isBody, rfl⟩ := ih later
      have inside : IsBody (digits ++ body) :=
        (isBody_digits_append (List.all_eq_true.mp all)).mpr isBody
      exact ⟨'\\' :: 'u' :: (digits ++ body), behind, .escape (by decide) inside, rfl⟩
  | case4 a b c d rest digits mixed =>
      rename_i ih
      obtain ⟨inner, later, _⟩ := Option.map_eq_some_iff.mp found
      obtain ⟨body, behind, isBody, split⟩ := ih later
      exact ⟨'\\' :: 'u' :: body, behind, .escape (by decide) isBody, by rw [split]; rfl⟩
  | case5 rest short ih =>
      obtain ⟨inner, later, _⟩ := Option.map_eq_some_iff.mp found
      obtain ⟨body, behind, isBody, rfl⟩ := ih later
      exact ⟨'\\' :: 'u' :: body, behind, .escape (by decide) isBody, rfl⟩
  | case6 letter rest short other c named ih =>
      obtain ⟨inner, later, _⟩ := Option.map_eq_some_iff.mp found
      obtain ⟨body, behind, isBody, rfl⟩ := ih later
      have listed := escapeChar?_eq_some_iff.mp named
      simp only [namedEscapes, List.mem_cons, Prod.mk.injEq, List.not_mem_nil, or_false] at listed
      have letters : letter ∈ ['t', 'r', 'n', 'u'] := by
        rcases listed with ⟨rfl, _⟩ | ⟨rfl, _⟩ | ⟨rfl, _⟩ <;> decide
      exact ⟨'\\' :: letter :: body, behind, .escape letters isBody, rfl⟩
  | case7 letter rest short other none => cases found
  | case8 => cases found
  | case9 c rest notQuote _ _ escaped dangling ih =>
      obtain ⟨inner, later, _⟩ := Option.map_eq_some_iff.mp found
      obtain ⟨body, behind, isBody, rfl⟩ := ih later
      have notBackslash : c ≠ '\\' := by
        intro same
        cases body with
        | nil => exact escaped '"' behind same rfl
        | cons letter body => exact escaped letter (body ++ '"' :: behind) same rfl
      exact ⟨c :: body, behind, .plain notQuote notBackslash isBody, rfl⟩

variable {text body content rest : Text}

theorem read?_inQuotes (decodes : Decodes body content) (isBody : IsBody body)
    (rest : Text) :
    read? (inQuotes body ++ rest) = some ⟨inQuotes body, content⟩ := by
  rw [inQuotes, List.cons_append, List.append_assoc, List.singleton_append, read?,
    decodes.readBody? isBody]
  rfl

theorem consume_of_decodes (decodes : Decodes body content) (isBody : IsBody body)
    (rest : Text) :
    consume (inQuotes body ++ rest) =
      .result (.bool true) (.str (inQuotes body)) (.str content) := by
  rw [consume, read?_inQuotes decodes isBody]

theorem Decodes.unique {other : Text} (first : Decodes body content)
    (second : Decodes body other) (isBody : IsBody body) : other = content := by
  have same := (second.readBody? isBody []).symm.trans (first.readBody? isBody [])
  injection same with same
  injection same

theorem IsBody.unique {other behind : Text} (first : IsBody body) (second : IsBody other)
    (same : inQuotes body ++ rest = inQuotes other ++ behind) : other = body := by
  obtain ⟨content, decodes⟩ := exists_decodes first
  obtain ⟨meaning, decodes'⟩ := exists_decodes second
  have read := read?_inQuotes decodes first rest
  rw [same, read?_inQuotes decodes' second] at read
  injection read with read
  injection read with quoted
  injection quoted with _ closed
  exact List.append_cancel_right closed

theorem consume_eq_failure (missing : ¬ ∃ body rest, IsBody body ∧ text = inQuotes body ++ rest) :
    consume text = .failure := by
  unfold consume
  cases found : read? text with
  | none => rfl
  | some read =>
      exfalso
      unfold read? at found
      split at found
      · obtain ⟨inner, later, _⟩ := Option.map_eq_some_iff.mp found
        obtain ⟨body, behind, isBody, rfl⟩ := exists_body_of_readBody? later
        exact missing ⟨body, behind, isBody, by simp [inQuotes]⟩
      · cases found

/--
A text that starts with a body in quotes has that literal consumed, whatever
follows it, and there is no second such body.  The content is the one thing that
the body stands for.  At the start of any other text there is no literal.
-/
theorem consume_iff_literal (text : Text) :
    (∀ body rest, IsBody body → text = inQuotes body ++ rest →
      (∀ other behind, IsBody other → text = inQuotes other ++ behind → other = body) ∧
      ∃ content, (∀ meaning, Decodes body meaning ↔ meaning = content) ∧
        consume text = .result (.bool true) (.str (inQuotes body)) (.str content) ∧
        ∀ behind, consume (inQuotes body ++ behind) = consume text) ∧
    ((¬ ∃ body rest, IsBody body ∧ text = inQuotes body ++ rest) → consume text = .failure) := by
  refine ⟨?_, consume_eq_failure⟩
  rintro body rest isBody rfl
  obtain ⟨content, decodes⟩ := exists_decodes isBody
  refine ⟨fun other behind second same => isBody.unique second same, content, ?_, ?_, ?_⟩
  · intro meaning
    constructor
    · exact fun second => decodes.unique second isBody
    · rintro rfl
      exact decodes
  · exact consume_of_decodes decodes isBody rest
  · intro behind
    rw [consume_of_decodes decodes isBody, consume_of_decodes decodes isBody]

/-- Two digits before the closing quote and two behind it are no code. -/
theorem consume_iff_literal_splitCode :
    IsBody ['\\', 'u', '1', '2'] ∧ Decodes ['\\', 'u', '1', '2'] ['\\', 'u', '1', '2'] ∧
      consume "\"\\u12\"34" = .result (.bool true) "\"\\u12\"" "\\u12" := by
  have isBody : IsBody ['\\', 'u', '1', '2'] :=
    .escape (by decide) (.plain (by decide) (by decide) (.plain (by decide) (by decide) .nil))
  have evaluated : consume "\"\\u12\"34" = .result (.bool true) "\"\\u12\"" "\\u12" := rfl
  obtain ⟨_, content, decodes, consumed, _⟩ :=
    (consume_iff_literal "\"\\u12\"34").1 ['\\', 'u', '1', '2'] ['3', '4'] isBody rfl
  have same : content = ['\\', 'u', '1', '2'] := by
    rw [evaluated] at consumed
    injection consumed with _ _ shown
    injection shown with shown
    exact shown.symm
  exact ⟨isBody, (decodes _).mpr same.symm, evaluated⟩

end StringLiteral

end Lexwork
