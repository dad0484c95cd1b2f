import GridQuery.Datum.Json.Writer
import GridQuery.Proofs.Characters
import GridQuery.Sheets.Answer

/-!
# Answers taken out of their call

An answer stands between the beginning of a call and its end. The beginning is where it comes
first in the text, and the end is what the text ends with, so that nothing inside the answer is
taken for either.
-/

namespace GridQuery.Sheets

/-! ### The first place of a slice -/

section Slice

variable {stem before : List Char} {mark : Char}

/-- A slice whose last character it has nowhere else does not overlap itself: where it follows
on characters, it cannot begin among them and go on into itself. -/
theorem not_prefix_of_absent (once : mark ∉ stem) (some : before ≠ [])
    (absent : ¬ stem ++ [mark] <:+: before) (rest : List Char) :
    ¬ stem ++ [mark] <+: before ++ (stem ++ mark :: rest) := by
  intro starts
  rcases List.prefix_or_prefix_of_prefix starts (List.prefix_append before _) with
    inside | ⟨overlap, whole⟩
  · exact absent inside.isInfix
  · have within : overlap <+: stem := by
      have again : overlap <+: stem ++ mark :: rest := by
        rw [← whole] at starts
        exact (List.prefix_append_right_inj before).mp starts
      apply List.prefix_of_prefix_length_le again (List.prefix_append stem _)
      have lengths := congrArg List.length whole
      have front := List.length_pos_iff.mpr some
      simp only [List.length_append, List.length_singleton] at lengths
      omega
    rcases List.eq_nil_or_concat overlap with rfl | ⟨inner, last, rfl⟩
    · rw [List.append_nil] at whole
      exact absent (whole ▸ List.infix_rfl)
    · rw [List.concat_eq_append, ← List.append_assoc] at whole
      have same : last = mark := by simpa using (List.append_inj' whole rfl).2
      exact once (within.subset (by simp [same]))

theorem afterSlice?_append (slice : List Char) (nonempty : slice ≠ []) (rest : List Char) :
    afterSlice? slice (slice ++ rest) = some rest := by
  cases slice with
  | nil => exact absurd rfl nonempty
  | cons first later =>
      have begins : (first :: later).isPrefixOf (first :: (later ++ rest)) = true := by
        rw [List.isPrefixOf_iff_prefix]
        exact List.prefix_append (first :: later) rest
      have left : (first :: (later ++ rest)).drop (first :: later).length = rest := by simp
      rw [List.cons_append, afterSlice?, if_pos begins, left]

/-- What comes after a slice is what follows where it comes first. -/
theorem afterSlice?_of_absent (once : mark ∉ stem) (absent : ¬ stem ++ [mark] <:+: before)
    (rest : List Char) :
    afterSlice? (stem ++ [mark]) (before ++ (stem ++ mark :: rest)) = some rest := by
  induction before with
  | nil =>
      have here := afterSlice?_append (stem ++ [mark]) (by simp) rest
      rw [List.append_assoc, List.singleton_append] at here
      exact here
  | cons first before inductionHypothesis =>
      have later : ¬ stem ++ [mark] <:+: before := fun inside =>
        absent (List.infix_cons inside)
      have elsewhere := not_prefix_of_absent once (List.cons_ne_nil first before) absent rest
      rw [← List.isPrefixOf_iff_prefix] at elsewhere
      rw [List.cons_append] at elsewhere ⊢
      rw [afterSlice?, if_neg elsewhere]
      exact inductionHypothesis later

end Slice

/-! ### Between the beginning and the end -/

variable {before body closing blanks : String}

theorem beforeClosing?_append (closes : closing = ")" ∨ closing = ");") (characters : List Char) :
    beforeClosing? (characters ++ closing.toList) = some characters := by
  rcases closes with rfl | rfl
  · simp [beforeClosing?]
  · simp [beforeClosing?]

theorem stops_callOpening (rest : List Char) :
    Stops Text.isBlank (callOpening.toList ++ rest) := by
  have begins : callOpening.toList =
      'g' :: "oogle.visualization.Query.setResponse(".toList := by decide
  rw [begins, List.cons_append, stops_cons]
  decide

theorem stops_reverse_closing (closes : closing = ")" ∨ closing = ");") (characters : List Char) :
    Stops Text.isBlank (characters ++ closing.toList).reverse := by
  rcases closes with rfl | rfl
  · simp
    decide
  · simp
    decide

/-- Trimming leaves a call as it is, whatever text it stands behind. -/
theorem trimList_call (closes : closing = ")" ∨ closing = ");")
    (blank : ∀ character ∈ blanks.toList, Text.isBlank character = true) :
    Text.trimList (before ++ callOpening ++ body ++ closing ++ blanks).toList =
      before.toList.dropWhile Text.isBlank ++
        (callOpening.toList ++ (body.toList ++ closing.toList)) := by
  have nonempty : callOpening.toList ++ (body.toList ++ closing.toList) ≠ [] := by
    simp [callOpening]
  have back : Stops Text.isBlank
      (callOpening.toList ++ (body.toList ++ closing.toList)).reverse := by
    rw [← List.append_assoc]
    exact stops_reverse_closing closes (callOpening.toList ++ body.toList)
  have shape : (before ++ callOpening ++ body ++ closing ++ blanks).toList = before.toList ++
      ((callOpening.toList ++ (body.toList ++ closing.toList)) ++ blanks.toList) := by
    simp
  rw [shape, trimList_append _ nonempty (stops_callOpening _) back blank]

/-- The argument of a call is found whatever it holds. -/
theorem callArgument?_wrapped (unopened : ¬ callOpening.toList <:+: before.toList)
    (closes : closing = ")" ∨ closing = ");")
    (blank : ∀ character ∈ blanks.toList, Text.isBlank character = true) :
    callArgument? (before ++ callOpening ++ body ++ closing ++ blanks) = some body := by
  -- The parenthesis is the only one in the beginning of a call, which so does not overlap itself.
  obtain ⟨stem, opening, once⟩ : ∃ stem, callOpening.toList = stem ++ ['('] ∧ '(' ∉ stem :=
    ⟨"google.visualization.Query.setResponse".toList, by decide, by decide⟩
  have absent : ¬ stem ++ ['('] <:+: before.toList.dropWhile Text.isBlank := by
    intro inside
    rw [opening] at unopened
    exact unopened (inside.trans (List.dropWhile_suffix _).isInfix)
  rw [callArgument?, trimList_call closes blank, opening, List.append_assoc,
    List.singleton_append, afterSlice?_of_absent once absent]
  simp [beforeClosing?_append closes]

theorem isErrorStatus_eq_false {status : Datum} (accepted : status ≠ .text "error") :
    isErrorStatus status = false := by
  cases status with
  | text content =>
      have other : content ≠ "error" := fun same => accepted (congrArg Datum.text same)
      simpa [isErrorStatus] using other
  | _ => rfl

/-- An answer that stands in its call, after a text without the beginning of the call, is taken
out of it, whatever strings it holds: its table is that of the payload. -/
theorem answerTable_wrapped {fields : List (String × Datum)}
    (unopened : ¬ callOpening.toList <:+: before.toList)
    (written : Datum.ofJson? body = some (.record fields))
    (accepted : fields.lookup "status" ≠ some (.text "error"))
    (closes : closing = ")" ∨ closing = ");")
    (blank : ∀ character ∈ blanks.toList, Text.isBlank character = true) :
    answerTable (before ++ callOpening ++ body ++ closing ++ blanks) =
      .ok (.ok ((fields.lookup "table").getD emptyAnswer)) := by
  have status : isErrorStatus ((fields.lookup "status").getD .null) = false := by
    apply isErrorStatus_eq_false
    cases told : fields.lookup "status" with
    | none => simp
    | some status =>
        rw [told] at accepted
        simpa using accepted
  rw [answerTable, callArgument?_wrapped unopened closes blank, Option.bind_some, written]
  simp only [Datum.fieldOr, bind, Except.bind, status]
  rfl

/-- A table with the ends of calls and the beginning of one in its strings. -/
def quotingTable : String :=
  "\x7b\"cols\":[],\"rows\":[\");\",\")\",\"google.visualization.Query.setResponse(\"]\x7d"

def quotingAnswer : String :=
  "\x7b\"status\":\"ok\",\"table\":" ++ quotingTable ++ "\x7d"

theorem exists_quotingAnswer : ∃ fields,
    Datum.ofJson? quotingAnswer = some (.record fields) ∧
      fields.lookup "status" ≠ some (.text "error") ∧
      ((fields.lookup "table").getD emptyAnswer).toJson .compact = quotingTable := by
  have read : ((Datum.ofJson? quotingAnswer).any fun payload =>
      !(payload.field? "status").any isErrorStatus &&
        (payload.field? "table").any fun table => table.toJson .compact == quotingTable) =
          true := by
    decide +kernel
  obtain ⟨payload, written, checked⟩ := (Option.any_eq_true _ _).mp read
  obtain ⟨accepted, shown⟩ := Bool.and_eq_true_iff.mp checked
  obtain ⟨table, found, text⟩ := (Option.any_eq_true _ _).mp shown
  cases payload with
  | record fields =>
      have here : fields.lookup "table" = some table := found
      refine ⟨fields, written, ?_, ?_⟩
      · intro error
        have status : (Datum.record fields).field? "status" = some (.text "error") := error
        rw [status] at accepted
        cases accepted
      · rw [here]
        exact beq_iff_eq.mp text
  | _ => cases found

theorem quotingAnswer_wrapped :
    ¬ callOpening.toList <:+: "/**/google.visualization.".toList ∧
      ∃ fields, Datum.ofJson? quotingAnswer = some (.record fields) ∧
        fields.lookup "status" ≠ some (.text "error") ∧
        ((fields.lookup "table").getD emptyAnswer).toJson .compact = quotingTable ∧
        answerTable ("/**/google.visualization." ++ callOpening ++ quotingAnswer ++ ");" ++
          " \n") = .ok (.ok ((fields.lookup "table").getD emptyAnswer)) := by
  have unopened : ¬ callOpening.toList <:+: "/**/google.visualization.".toList := by
    intro inside
    have lengths := inside.length_le
    revert lengths
    decide
  obtain ⟨fields, written, accepted, table⟩ := exists_quotingAnswer
  have blank := List.all_eq_true.mp (by decide : " \n".toList.all Text.isBlank = true)
  exact ⟨unopened, fields, written, accepted, table,
    answerTable_wrapped unopened written accepted (.inr rfl) blank⟩

end GridQuery.Sheets
