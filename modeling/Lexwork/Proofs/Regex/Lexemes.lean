import Lexwork.Regex.Reader

/-!
# Where lexemes stand

The units of a pattern, written one after the other, are its text, except that a
backslash at the very end is no unit.  So the offset of a lexeme tells which part
of the text stands before it, and which unit the lexeme was read from.
-/

namespace Lexwork

namespace Regex

namespace Glyph

/-- A character that stands for itself as a unit. -/
def plain (c : Char) : Glyph :=
  ⟨false, c⟩

theorem ofText_cons {c : Char} (ordinary : c ≠ '\\') (rest : Text) :
    ofText (c :: rest) = plain c :: ofText rest := by
  rw [ofText]
  · rfl
  · exact fun _ _ same _ => ordinary same
  · exact fun same _ => ordinary same

theorem dangling_cons {c : Char} (ordinary : c ≠ '\\') (rest : Text) :
    dangling (c :: rest) = dangling rest := by
  rw [dangling]
  · exact fun _ _ same _ => ordinary same
  · exact fun same _ => ordinary same

theorem ofText_append {text : Text} (ordinary : '\\' ∉ text) (rest : Text) :
    ofText (text ++ rest) = text.map plain ++ ofText rest := by
  induction text with
  | nil => rfl
  | cons c text ih =>
      rw [List.mem_cons, not_or] at ordinary
      rw [List.cons_append, ofText_cons (Ne.symm ordinary.1), ih ordinary.2]
      rfl

theorem ofText_eq_cons {text : Text} {glyph : Glyph} {rest : List Glyph}
    (read : ofText text = glyph :: rest) :
    ∃ behind, text = glyph.text ++ behind ∧ ofText behind = rest ∧
      dangling behind = dangling text := by
  cases text with
  | nil => cases read
  | cons c behind =>
      by_cases backslash : c = '\\'
      · subst backslash
        cases behind with
        | nil => cases read
        | cons d behind =>
            cases read
            exact ⟨behind, rfl, rfl, rfl⟩
      · rw [ofText_cons backslash] at read
        cases read
        exact ⟨behind, rfl, rfl, (dangling_cons backslash behind).symm⟩

theorem ofText_eq_append {text : Text} {passed later : List Glyph}
    (read : ofText text = passed ++ later) :
    ∃ behind, text = passed.flatMap Glyph.text ++ behind ∧ ofText behind = later ∧
      dangling behind = dangling text := by
  induction passed generalizing text with
  | nil => exact ⟨text, rfl, read, rfl⟩
  | cons glyph passed ih =>
      obtain ⟨middle, rfl, readMiddle, sameMiddle⟩ := ofText_eq_cons read
      obtain ⟨behind, rfl, readBehind, sameBehind⟩ := ih readMiddle
      refine ⟨behind, ?_, readBehind, sameBehind.trans sameMiddle⟩
      rw [List.flatMap_cons, List.append_assoc]

theorem totalWidth_cons (glyph : Glyph) (glyphs : List Glyph) :
    totalWidth (glyph :: glyphs) = glyph.width + totalWidth glyphs := by
  have shifted (glyphs : List Glyph) (start : Nat) :
      glyphs.foldl (fun total glyph => total + glyph.width) start = start + totalWidth glyphs := by
    induction glyphs generalizing start with
    | nil => rfl
    | cons glyph glyphs ih =>
        rw [totalWidth, List.foldl_cons, List.foldl_cons, ih, ih]
        omega
  rw [totalWidth, List.foldl_cons, shifted, Nat.zero_add]

theorem length_flatMap_text (glyphs : List Glyph) :
    (glyphs.flatMap Glyph.text).length = totalWidth glyphs := by
  induction glyphs with
  | nil => rfl
  | cons glyph glyphs ih =>
      rw [List.flatMap_cons, List.length_append, ih, totalWidth_cons, Glyph.text, width]
      split <;> rfl

theorem flatMap_text_plain (text : Text) : (text.map plain).flatMap Glyph.text = text := by
  induction text with
  | nil => rfl
  | cons c text ih => exact congrArg (c :: ·) ih

end Glyph

variable {dangling verbose : Bool} {skip offset : Nat} {glyphs : List Glyph} {placed : Placed}

/-- A lexeme is the first one of the units from its offset on. -/
def IsFirstThere (dangling : Bool) (offset : Nat) (glyphs : List Glyph) (placed : Placed) : Prop :=
  ∃ passed later verbose, glyphs = passed ++ later ∧
    placed.start = offset + Glyph.totalWidth passed ∧
    (lexemes dangling verbose 0 placed.start later).head? = some placed

theorem IsFirstThere.cons (glyph : Glyph)
    (first : IsFirstThere dangling (offset + glyph.width) glyphs placed) :
    IsFirstThere dangling offset (glyph :: glyphs) placed := by
  obtain ⟨passed, later, verbose, rfl, start, first⟩ := first
  refine ⟨glyph :: passed, later, verbose, rfl, ?_, first⟩
  rw [start, Glyph.totalWidth_cons, Nat.add_assoc]

theorem IsFirstThere.here {more : List Placed} (verbose : Bool) (start : placed.start = offset)
    (read : lexemes dangling verbose 0 offset glyphs = placed :: more) :
    IsFirstThere dangling offset glyphs placed := by
  refine ⟨[], glyphs, verbose, rfl, start, ?_⟩
  rw [start, read]
  rfl

/-- Behind the lexeme of the first unit, if anything, come lexemes of the other units. -/
theorem lexemes_cons (dangling verbose : Bool) (offset : Nat) (glyph : Glyph)
    (rest : List Glyph) :
    ∃ first more, lexemes dangling verbose 0 offset (glyph :: rest) = first :: more ∧
      first.start = offset ∧
      (more = [] ∨
        ∃ verbose skip, more = lexemes dangling verbose skip (offset + glyph.width) rest) := by
  rw [lexemes]
  split
  · exact ⟨_, [], rfl, rfl, .inl rfl⟩
  · split
    · exact ⟨_, [], rfl, rfl, .inl rfl⟩
    · exact ⟨_, _, rfl, rfl, .inr ⟨_, _, rfl⟩⟩

theorem isFirstThere_of_mem (inside : placed ∈ lexemes dangling verbose skip offset glyphs) :
    IsFirstThere dangling offset glyphs placed := by
  induction glyphs generalizing verbose skip offset with
  | nil =>
      rw [lexemes] at inside
      split at inside
      · rename_i loose
        obtain rfl := List.mem_singleton.mp inside
        exact .here verbose rfl (by rw [lexemes, if_pos loose])
      · cases inside
  | cons glyph rest ih =>
      cases skip with
      | succ skip => exact (ih inside).cons glyph
      | zero =>
          obtain ⟨first, more, read, start, behind⟩ :=
            lexemes_cons dangling verbose offset glyph rest
          rw [read] at inside
          rcases List.mem_cons.mp inside with rfl | later
          · exact .here verbose start read
          · rcases behind with rfl | ⟨verboseNext, skipNext, rfl⟩
            · cases later
            · exact (ih later).cons glyph

/-- A lexeme of a text is the first one of what stands behind the characters before it. -/
theorem exists_behind_of_mem {text : Text}
    (inside : placed ∈ lexemes (Glyph.dangling text) verbose 0 0 (Glyph.ofText text)) :
    ∃ before behind verbose, text = before ++ behind ∧ before.length = placed.start ∧
      (lexemes (Glyph.dangling behind) verbose 0 placed.start (Glyph.ofText behind)).head? =
        some placed := by
  obtain ⟨passed, later, verbose, units, start, first⟩ := isFirstThere_of_mem inside
  obtain ⟨behind, shape, rfl, same⟩ := Glyph.ofText_eq_append units
  refine ⟨_, behind, verbose, shape, ?_, by rw [same, first]⟩
  rw [Glyph.length_flatMap_text, start, Nat.zero_add]

end Regex

end Lexwork
