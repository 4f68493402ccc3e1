import ScalarSql.Operator

/-!
# Spellings in pieces

The text of an expression is a row of pieces: words, quoted texts, the fixed spellings
between them, and rows of pieces in parentheses.  `Piece.spellAll` is the text of a row.

**Reading pieces back.**  A row can be told from its text if no word holds a character that
ends words, no quoted text holds a quote, and something stands between any two words,
`Piece.AllWellFormed`.  Then the pieces are found from the left, one at a time, and nothing
else has the same text, `Piece.spellAll_append_inj`.
-/

set_option autoImplicit false

namespace ScalarSql

/-- The fixed spellings between words. -/
inductive Mark where
  | not | minus | dot | comma | isNull | isNotNull | as
  | operator (op : Operator)
  deriving DecidableEq

namespace Mark

/-- The spelling, with the blanks that belong to it. -/
def text : Mark → String
  | .not => "NOT "
  | .minus => "-"
  | .dot => "."
  | .comma => ", "
  | .isNull => " IS NULL"
  | .isNotNull => " IS NOT NULL"
  | .as => " AS "
  | .operator op => " " ++ op.text ++ " "

/-- All marks. -/
def all : List Mark :=
  [.not, .minus, .dot, .comma, .isNull, .isNotNull, .as] ++ Operator.all.map operator

theorem mem_all (mark : Mark) : mark ∈ all := by
  cases mark with
  | operator op =>
      refine List.mem_append_right _ (List.mem_map_of_mem ?_)
      rcases op with op | op | op <;> cases op <;> decide
  | _ => decide

/-- No mark is the beginning of another one. -/
theorem eq_of_isPrefix {left right : Mark}
    (leads : left.text.toList <+: right.text.toList) : left = right := by
  have each : ∀ left ∈ all, ∀ right ∈ all,
      left.text.toList.isPrefixOf right.text.toList = true → left = right := by
    decide +kernel
  exact each left left.mem_all right right.mem_all (List.isPrefixOf_iff_prefix.mpr leads)

theorem text_append_inj {left right : Mark} {leftRest rightRest : List Char}
    (same : left.text.toList ++ leftRest = right.text.toList ++ rightRest) :
    left = right ∧ leftRest = rightRest := by
  have leads : left.text.toList <+: right.text.toList ++ rightRest := ⟨leftRest, same⟩
  have marks : left = right := by
    rcases List.prefix_or_prefix_of_prefix leads (List.prefix_append _ _) with before | after
    · exact eq_of_isPrefix before
    · exact (eq_of_isPrefix after).symm
  subst marks
  exact ⟨rfl, List.append_cancel_left same⟩

end Mark

/-- A piece of the text of an expression. -/
inductive Piece where
  | word (characters : List Char)
  /-- A text between single quotes. -/
  | quoted (characters : List Char)
  | mark (mark : Mark)
  /-- Pieces in parentheses. -/
  | group (content : List Piece)

/-- Whether the character ends a word. -/
def isDelimiter (c : Char) : Bool :=
  [' ', '(', ')', ',', '.', '-', '\''].contains c

namespace Piece

/-! ## Text -/

mutual

/-- The text of a piece. -/
def spell : Piece → List Char
  | .word characters => characters
  | .quoted characters => '\'' :: (characters ++ ['\''])
  | .mark sign => sign.text.toList
  | .group content => '(' :: (spellAll content ++ [')'])

/-- The text of several pieces. -/
def spellAll : List Piece → List Char
  | [] => []
  | piece :: rest => piece.spell ++ spellAll rest

end

theorem spellAll_append (first second : List Piece) :
    spellAll (first ++ second) = spellAll first ++ spellAll second := by
  induction first with
  | nil => rfl
  | cons piece rest ih => rw [List.cons_append, spellAll, spellAll, ih, List.append_assoc]

theorem spellAll_singleton (piece : Piece) : spellAll [piece] = piece.spell :=
  List.append_nil _

/-! ## Pieces that can be told apart -/

/-- Whether the piece is a word. -/
def isWord : Piece → Bool
  | .word _ => true
  | _ => false

/-- Whether the text of the piece would run together with a word in front of it. -/
def runsOn : Piece → Bool
  | .word _ => true
  | .mark sign => sign == .not
  | _ => false

mutual

/-- The piece can be found in a text. -/
def WellFormed : Piece → Prop
  | .word characters =>
      characters ≠ [] ∧ characters ≠ "NOT".toList ∧ ∀ c ∈ characters, isDelimiter c = false
  | .quoted characters => '\'' ∉ characters
  | .mark _ => True
  | .group content => AllWellFormed content

/-- Every piece can be found in a text, and no word runs together with what follows it. -/
def AllWellFormed : List Piece → Prop
  | [] => True
  | piece :: rest =>
      piece.WellFormed ∧ (piece.isWord = true → ∀ next ∈ rest.head?, next.runsOn = false)
        ∧ AllWellFormed rest

end

/-- A word that is not reserved and holds no character that ends words is well formed. -/
theorem wellFormed_word {characters : List Char} (nonempty : characters ≠ [])
    (plain : characters ≠ "NOT".toList) (separate : characters.all (!isDelimiter ·) = true) :
    (Piece.word characters).WellFormed := by
  refine ⟨nonempty, plain, ?_⟩
  simpa using separate

theorem allWellFormed_nil : AllWellFormed [] := trivial

/-- A piece that is no word may stand in front of any piece. -/
theorem allWellFormed_cons {piece : Piece} {rest : List Piece} (formed : piece.WellFormed)
    (noWord : piece.isWord = false) (restFormed : AllWellFormed rest) :
    AllWellFormed (piece :: rest) := by
  refine ⟨formed, ?_, restFormed⟩
  intro word
  rw [noWord] at word
  cases word

/-- A word may stand in front of a piece that does not run on. -/
theorem allWellFormed_cons_cons {piece next : Piece} {rest : List Piece}
    (formed : piece.WellFormed) (apart : next.runsOn = false)
    (restFormed : AllWellFormed (next :: rest)) : AllWellFormed (piece :: next :: rest) := by
  refine ⟨formed, ?_, restFormed⟩
  rintro - _ ⟨⟩
  exact apart

theorem allWellFormed_singleton {piece : Piece} (formed : piece.WellFormed) :
    AllWellFormed [piece] := by
  refine ⟨formed, ?_, allWellFormed_nil⟩
  rintro - next atHead
  cases atHead

theorem allWellFormed_append_cons {first rest : List Piece} {next : Piece}
    (firstFormed : AllWellFormed first) (apart : next.runsOn = false)
    (restFormed : AllWellFormed (next :: rest)) : AllWellFormed (first ++ next :: rest) := by
  induction first with
  | nil => exact restFormed
  | cons piece others ih =>
      obtain ⟨formed, followed, othersFormed⟩ := firstFormed
      refine ⟨formed, ?_, ih othersFormed⟩
      cases others with
      | nil =>
          rintro - _ ⟨⟩
          exact apart
      | cons _ _ => exact followed

/-! ## Reading pieces back -/

section Cutting

variable {α : Type} {stops : α → Bool}

/-- A list is found in front of what first has a property. -/
theorem takeWhile_append_of_stops {before after : List α}
    (free : ∀ item ∈ before, stops item = false)
    (stopped : ∀ item ∈ after.head?, stops item = true) :
    (before ++ after).takeWhile (!stops ·) = before := by
  rw [List.takeWhile_append_of_pos (by simpa using free)]
  cases after with
  | nil => simp
  | cons item _ => simp [stopped item rfl]

/-- Two lists that are cut where a property first holds are cut alike. -/
theorem append_inj_of_stops {left right leftRest rightRest : List α}
    (leftFree : ∀ item ∈ left, stops item = false)
    (rightFree : ∀ item ∈ right, stops item = false)
    (leftStops : ∀ item ∈ leftRest.head?, stops item = true)
    (rightStops : ∀ item ∈ rightRest.head?, stops item = true)
    (same : left ++ leftRest = right ++ rightRest) : left = right ∧ leftRest = rightRest := by
  have before : left = right := by
    rw [← takeWhile_append_of_stops leftFree leftStops, same,
      takeWhile_append_of_stops rightFree rightStops]
  subst before
  exact ⟨rfl, List.append_cancel_left same⟩

/-- Two lists that are cut where an item first stands are cut alike. -/
theorem append_cons_inj_of_not_mem [BEq α] [LawfulBEq α] {item : α}
    {left right leftRest rightRest : List α} (leftFree : item ∉ left) (rightFree : item ∉ right)
    (same : left ++ item :: leftRest = right ++ item :: rightRest) :
    left = right ∧ leftRest = rightRest := by
  have free : ∀ {items : List α}, item ∉ items → ∀ other ∈ items, (other == item) = false := by
    intro items absent other member
    exact beq_eq_false_iff_ne.mpr fun equal => absent (equal ▸ member)
  have stopped : ∀ {rest : List α}, ∀ other ∈ (item :: rest).head?, (other == item) = true := by
    rintro rest _ ⟨⟩
    exact beq_self_eq_true _
  obtain ⟨before, after⟩ :=
    append_inj_of_stops (free leftFree) (free rightFree) stopped stopped same
  exact ⟨before, List.tail_eq_of_cons_eq after⟩

end Cutting

/-- The text ends here, or the parentheses around it do. -/
def Ends (text : List Char) : Prop := ∀ c ∈ text.head?, c = ')'

/-- A piece that does not run on starts with a character that ends words. -/
theorem spell_of_runsOn {piece : Piece} (apart : piece.runsOn = false) :
    ∃ c rest, piece.spell = c :: rest ∧ isDelimiter c = true := by
  cases piece with
  | word _ => cases apart
  | quoted characters => exact ⟨'\'', _, rfl, by decide⟩
  | group content => exact ⟨'(', _, rfl, by decide⟩
  | mark sign =>
      cases sign with
      | not => cases apart
      | minus => exact ⟨'-', _, rfl, by decide⟩
      | dot => exact ⟨'.', _, rfl, by decide⟩
      | comma => exact ⟨',', _, rfl, by decide⟩
      | isNull | isNotNull | as => exact ⟨' ', _, rfl, by decide⟩
      | operator op =>
          exact ⟨' ', op.text.toList ++ [' '], by simp [spell, Mark.text], by decide⟩

/-- The end of a text and any piece that does not run on end a word. -/
theorem isDelimiter_of_head? {pieces : List Piece} {rest : List Char}
    (apart : ∀ next ∈ pieces.head?, next.runsOn = false) (ends : Ends rest) :
    ∀ c ∈ (spellAll pieces ++ rest).head?, isDelimiter c = true := by
  cases pieces with
  | nil =>
      intro c atHead
      rw [ends c atHead]
      decide
  | cons piece others =>
      obtain ⟨first, later, spelled, delimiter⟩ := spell_of_runsOn (apart piece rfl)
      intro c atHead
      simp only [spellAll, spelled, List.cons_append, List.head?_cons, Option.mem_some_iff]
        at atHead
      rwa [← atHead]

/-- The kinds of pieces. -/
inductive Kind where
  | word | quoted | mark | group
  deriving DecidableEq

/-- The kind of a piece. -/
def kind : Piece → Kind
  | .word _ => .word
  | .quoted _ => .quoted
  | .mark _ => .mark
  | .group _ => .group

/-- The kind of the first piece of a text that goes on, as its characters show. -/
def kindOf? (text : List Char) : Option Kind :=
  match text with
  | [] => none
  | c :: _ =>
      if c = ')' then none
      else if c = '\'' then some .quoted
      else if c = '(' then some .group
      else if isDelimiter c ∨ text.takeWhile (!isDelimiter ·) = "NOT".toList then some .mark
      else some .word

theorem kindOf?_spellAll {pieces : List Piece} {rest : List Char}
    (formed : AllWellFormed pieces) (ends : Ends rest) :
    kindOf? (spellAll pieces ++ rest) = pieces.head?.map kind := by
  cases pieces with
  | nil =>
      cases rest with
      | nil => rfl
      | cons c _ =>
          cases ends c rfl
          rfl
  | cons piece others =>
      obtain ⟨pieceFormed, followed, -⟩ := formed
      cases piece with
      | quoted _ | group _ => rfl
      | mark sign =>
          cases sign with
          | operator op => simp [spellAll, spell, Mark.text, kindOf?, isDelimiter, kind]
          | _ => rfl
      | word characters =>
          obtain ⟨nonempty, plain, free⟩ := pieceFormed
          have taken := takeWhile_append_of_stops free (isDelimiter_of_head? (followed rfl) ends)
          obtain ⟨c, later, rfl⟩ := List.exists_cons_of_ne_nil nonempty
          have other : ∀ {delimiter : Char}, isDelimiter delimiter = true → c ≠ delimiter := by
            rintro _ delimits rfl
            rw [free c List.mem_cons_self] at delimits
            cases delimits
          simp only [spellAll, spell, List.append_assoc, List.cons_append] at taken ⊢
          have unmarked : ¬ (isDelimiter c = true ∨
              (c :: (later ++ (spellAll others ++ rest))).takeWhile (!isDelimiter ·)
                = "NOT".toList) := by
            rintro (delimits | negation)
            · exact other delimits rfl
            · exact plain (taken.symm.trans negation)
          rw [kindOf?, if_neg (other (by decide)), if_neg (other (by decide)),
            if_neg (other (by decide)), if_neg unmarked]
          rfl

theorem ends_nil : Ends [] := by
  intro c atHead
  cases atHead

theorem ends_closed (rest : List Char) : Ends (')' :: rest) := by
  intro c atHead
  cases atHead
  rfl

mutual

/-- Two pieces of one kind are the same if their texts with what follows them are. -/
theorem spell_append_inj : ∀ (left right : Piece) {leftRest rightRest : List Char},
    left.WellFormed → right.WellFormed → left.kind = right.kind →
      (left.isWord = true → ∀ c ∈ leftRest.head?, isDelimiter c = true) →
      (right.isWord = true → ∀ c ∈ rightRest.head?, isDelimiter c = true) →
      left.spell ++ leftRest = right.spell ++ rightRest → left = right ∧ leftRest = rightRest
  | .word left, .word right, _, _, leftFormed, rightFormed, _, leftStops, rightStops, same => by
      obtain ⟨rfl, rests⟩ := append_inj_of_stops leftFormed.2.2 rightFormed.2.2
        (leftStops rfl) (rightStops rfl) same
      exact ⟨rfl, rests⟩
  | .quoted left, .quoted right, _, _, leftFormed, rightFormed, _, _, _, same => by
      simp only [spell, List.append_assoc, List.cons_append, List.cons.injEq, true_and,
        List.nil_append] at same
      obtain ⟨rfl, rests⟩ := append_cons_inj_of_not_mem leftFormed rightFormed same
      exact ⟨rfl, rests⟩
  | .mark left, .mark right, _, _, _, _, _, _, _, same => by
      obtain ⟨rfl, rests⟩ := Mark.text_append_inj same
      exact ⟨rfl, rests⟩
  | .group left, .group right, _, _, leftFormed, rightFormed, _, _, _, same => by
      simp only [spell, List.append_assoc, List.cons_append, List.cons.injEq, true_and,
        List.nil_append] at same
      obtain ⟨rfl, rests⟩ := spellAll_append_inj left right leftFormed rightFormed
        (ends_closed _) (ends_closed _) same
      exact ⟨rfl, List.tail_eq_of_cons_eq rests⟩

/-- **A row of pieces can be told from its text**: two rows whose texts go on with the end
or a closing parenthesis are the same if the whole texts are. -/
theorem spellAll_append_inj : ∀ (left right : List Piece) {leftRest rightRest : List Char},
    AllWellFormed left → AllWellFormed right → Ends leftRest → Ends rightRest →
      spellAll left ++ leftRest = spellAll right ++ rightRest →
        left = right ∧ leftRest = rightRest
  | left, right, leftRest, rightRest, leftFormed, rightFormed, leftEnds, rightEnds, same => by
      have kinds : left.head?.map kind = right.head?.map kind := by
        rw [← kindOf?_spellAll leftFormed leftEnds, same, kindOf?_spellAll rightFormed rightEnds]
      match left, right with
      | [], [] => exact ⟨rfl, same⟩
      | [], _ :: _ => cases kinds
      | _ :: _, [] => cases kinds
      | first :: leftOthers, second :: rightOthers =>
          obtain ⟨firstFormed, firstFollowed, leftFormed⟩ := leftFormed
          obtain ⟨secondFormed, secondFollowed, rightFormed⟩ := rightFormed
          simp only [spellAll, List.append_assoc] at same
          obtain ⟨rfl, later⟩ := spell_append_inj first second firstFormed secondFormed
            (Option.some.inj kinds)
            (fun word => isDelimiter_of_head? (firstFollowed word) leftEnds)
            (fun word => isDelimiter_of_head? (secondFollowed word) rightEnds) same
          obtain ⟨rfl, rests⟩ := spellAll_append_inj leftOthers rightOthers
            leftFormed rightFormed leftEnds rightEnds later
          exact ⟨rfl, rests⟩

end

end Piece

end ScalarSql
