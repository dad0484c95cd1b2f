import GridQuery.Proofs.Sheets.Exchange

/-!
# Numbers of sheets

A lookup lists the sheets of a spreadsheet, and the number that is taken from it is that of the
first sheet of the name. Sheets are gone through in turn, and one without a title or a number
fails the search; where each has both, what is found is a matter of the list alone.
-/

namespace GridQuery.Sheets

/-! ### Sheets in a reply -/

/-- The sheets that a payload lists; none if it has no list of sheets. -/
def listedSheets (payload : Datum) : List Datum :=
  match payload.field? "sheets" with
  | some (.list sheets) => sheets
  | _ => []

/-- The title and the number of a sheet, if it gives both. -/
def titledId? (sheet : Datum) : Option (String × Datum) := do
  let properties ← sheet.field? "properties"
  match properties.field? "title", properties.field? "sheetId" with
  | some (.text title), some sheetId => some (title, sheetId)
  | _, _ => none

/-- Each sheet that a reply lists has a title and a number. -/
def GivesSheets (reply : Reply) : Prop :=
  ∀ payload ∈ payload? reply, ∀ sheet ∈ listedSheets payload, (titledId? sheet).isSome = true

instance (reply : Reply) : Decidable (GivesSheets reply) :=
  inferInstanceAs (Decidable (∀ payload ∈ payload? reply, ∀ sheet ∈ listedSheets payload,
    (titledId? sheet).isSome = true))

/-- The number of the first sheet of a name, or of the first sheet of all if the name is
empty. -/
def firstOfName? (name : String) (sheets : List (String × Datum)) : Option Datum :=
  (sheets.find? fun sheet => name.isEmpty || sheet.1 == name).map (·.2)

/-- The number of a name's sheet in what a reply lists. -/
def listedId? (name : String) (reply : Reply) : Option Datum := do
  let payload ← payload? reply
  firstOfName? name ((listedSheets payload).filterMap titledId?)

theorem fieldOr_of_field? {datum value : Datum} {name : String}
    (found : datum.field? name = some value) (missing : Datum) :
    datum.fieldOr name missing = .ok value := by
  cases datum with
  | record fields =>
      have here : fields.lookup name = some value := found
      simp [Datum.fieldOr, here]
  | _ => cases found

theorem field?_of_titledId? {sheet sheetId : Datum} {title : String}
    (given : titledId? sheet = some (title, sheetId)) :
    ∃ properties, sheet.field? "properties" = some properties ∧
      properties.field? "title" = some (.text title) ∧
      properties.field? "sheetId" = some sheetId := by
  simp only [titledId?, Option.bind_eq_bind, Option.bind_eq_some_iff] at given
  obtain ⟨properties, found, given⟩ := given
  split at given
  · next title number titled numbered =>
      cases given
      exact ⟨properties, found, titled, numbered⟩
  · cases given

theorem findSheetId_cons (name : String) {sheet sheetId : Datum} {title : String}
    (given : titledId? sheet = some (title, sheetId)) (sheets : List Datum) :
    findSheetId name (sheet :: sheets) =
      if name.isEmpty || title == name then .ok (some sheetId) else findSheetId name sheets := by
  obtain ⟨properties, found, titled, numbered⟩ := field?_of_titledId? given
  simp only [findSheetId, fieldOr_of_field? found, bind, Except.bind, fieldOr_of_field? titled,
    numbered, isTitled]
  rfl

/-- Sheets that all have a title and a number are gone through up to the first of the name. -/
theorem findSheetId_eq (name : String) {sheets : List Datum}
    (given : ∀ sheet ∈ sheets, (titledId? sheet).isSome = true) :
    findSheetId name sheets = .ok (firstOfName? name (sheets.filterMap titledId?)) := by
  induction sheets with
  | nil => rfl
  | cons sheet sheets inductionHypothesis =>
      have later := inductionHypothesis fun other among =>
        given other (List.mem_cons_of_mem sheet among)
      obtain ⟨⟨title, sheetId⟩, here⟩ := Option.isSome_iff_exists.mp (given sheet List.mem_cons_self)
      rw [findSheetId_cons name here, List.filterMap_cons_some here, firstOfName?, List.find?_cons]
      cases ofName : name.isEmpty || title == name with
      | true => rfl
      | false => exact later

/-- What a payload that lists its sheets tells of a name. -/
def sheetIn (name : String) (payload : Datum) : Except DataFault (Option Datum) := do
  findSheetId name (← (← payload.fieldOr "sheets" (.list [])).items)

/-- A payload with no list of sheets either fails to be one or lists none. -/
theorem toOption_sheetIn (name : String) {payload : Datum}
    (given : ∀ sheet ∈ listedSheets payload, (titledId? sheet).isSome = true) :
    (sheetIn name payload).toOption.join =
      firstOfName? name ((listedSheets payload).filterMap titledId?) := by
  cases payload with
  | record fields =>
      cases found : fields.lookup "sheets" with
      | none =>
          have empty : listedSheets (.record fields) = [] := by
            simp [listedSheets, Datum.field?, found]
          simp [sheetIn, Datum.fieldOr, found, empty]
          rfl
      | some value =>
          cases value with
          | list sheets =>
              have listed : listedSheets (.record fields) = sheets := by
                simp [listedSheets, Datum.field?, found]
              rw [listed] at given ⊢
              simp only [sheetIn, Datum.fieldOr, found]
              change (findSheetId name sheets).toOption.join = _
              rw [findSheetId_eq name given]
              rfl
          | _ =>
              simp [sheetIn, Datum.fieldOr, found, listedSheets, Datum.field?, Datum.items]
              rfl
  | _ => rfl

end GridQuery.Sheets
