import GridQuery.Proofs.Sheets.Lookup

/-!
# The sheets that removals are sent to

What a client knows of sheets comes from its lookups. A removal of rows is sent to the sheet
that the first lookup with a sheet of the name has told, which is not looked up again; while no
lookup has told one, each removal looks up first, and nothing is removed unless it finds one.
-/

namespace GridQuery.Sheets

variable {State : Type} (access : Access) (transport : Http.Transport State)

/-! ### One removal -/

section One

variable {location : Location} {numbers : List Nat} {client : Client State}

theorem sheetId_of_known {found : Datum}
    (known : client.sheetIds.lookup (location.spreadsheet, location.sheet) = some found) :
    sheetId access transport location client = (.ok found, client) := by
  rw [sheetId, Exchange.bind_apply, Exchange.get_apply]
  simp only [known]
  rfl

variable {reply : Reply} {next : State}

/-- A sheet that is not known is looked up once; its number is kept if the lookup tells it. -/
theorem exists_sheetId_of_unknown
    (unknown : client.sheetIds.lookup (location.spreadsheet, location.sheet) = none)
    (replied : transport (access.lookupRequest location) client.connection = (reply, next)) :
    ∃ outcome : Except GridFailure Datum,
      sheetId access transport location client =
        (outcome, ⟨next, (outcome.toOption.map fun found =>
          ((location.spreadsheet, location.sheet), found)).toList ++ client.sheetIds⟩) ∧
      (GivesSheets reply → outcome.toOption = listedId? location.sheet reply) := by
  obtain ⟨received, sent, arrived⟩ := exists_sendForDatum transport "Sheet lookup" replied
  rw [sheetId, Exchange.bind_apply, Exchange.get_apply]
  simp only [unknown, Exchange.bind_apply, sent]
  cases received with
  | error failure =>
      refine ⟨.error failure, rfl, fun _ => ?_⟩
      rw [listedId?, ← arrived]
      rfl
  | ok payload =>
      -- A search that fails and one that finds no sheet both leave the number unknown.
      have lists : GivesSheets reply →
          (sheetIn location.sheet payload).toOption.join = listedId? location.sheet reply := by
        intro gives
        rw [listedId?, ← arrived]
        exact toOption_sheetIn location.sheet (gives payload arrived.symm)
      obtain ⟨told, read, same⟩ := exists_ofResponse (sheetIn location.sheet payload)
        (⟨next, client.sheetIds⟩ : Client State)
      rw [← same] at lists
      rw [sheetIn] at read
      simp only [read]
      cases told with
      | error failure => exact ⟨.error failure, rfl, lists⟩
      | ok found =>
          cases found with
          | none => exact ⟨_, rfl, lists⟩
          | some found => exact ⟨.ok found, rfl, lists⟩

theorem deleteRows_of_error {after : Client State} {failure : GridFailure}
    (failed : sheetId access transport location client = (.error failure, after)) :
    (source access transport (.deleteRows location numbers) client).2 = after := by
  rw [source, Sheets.reply]
  change ((sheetId access transport location >>= _) client).2 = after
  rw [Exchange.bind_apply, failed]

theorem deleteRows_of_ok {middle : Client State} {found : Datum}
    (done : sheetId access transport location client = (.ok found, middle))
    (replied : transport (access.deleteRequest location found numbers) middle.connection =
      (reply, next)) :
    (source access transport (.deleteRows location numbers) client).2 =
      ⟨next, middle.sheetIds⟩ := by
  obtain ⟨received, sent, -⟩ := exists_sendForDatum transport "DELETE batch operation" replied
  rw [source, Sheets.reply]
  change ((sheetId access transport location >>= _) client).2 = _
  simp only [Exchange.bind_apply, done, sent]
  cases received with
  | error failure => rfl
  | ok payload =>
      obtain ⟨told, read, -⟩ := exists_ofResponse (updateTime payload)
        (⟨next, middle.sheetIds⟩ : Client State)
      simp only [read]

end One

/-- A client over a connection of which nothing has been written down yet. -/
def Client.unrecorded (client : Client State) : Client (State × List Exchanged) :=
  ⟨(client.connection, []), client.sheetIds⟩

/-- What is exchanged for a removal of rows from the sheet of a location, and the client that
it leaves. -/
def remove (location : Location) (numbers : List Nat) (client : Client State) :
    List Exchanged × Client State :=
  let after := (source access (recording transport) (.deleteRows location numbers)
    client.unrecorded).2
  (after.connection.2, ⟨after.connection.1, after.sheetIds⟩)

section Recorded

variable {location : Location} (numbers : List Nat) {client : Client State}

theorem exists_remove_of_known {found : Datum}
    (known : client.sheetIds.lookup (location.spreadsheet, location.sheet) = some found) :
    ∃ answer next, remove access transport location numbers client =
      ([⟨access.deleteRequest location found numbers, answer⟩], ⟨next, client.sheetIds⟩) := by
  have recorded : client.unrecorded.sheetIds.lookup (location.spreadsheet, location.sheet) =
    some found := known
  have done := sheetId_of_known access (recording transport) recorded
  rw [remove, deleteRows_of_ok access (recording transport) done rfl]
  exact ⟨_, _, rfl⟩

/-- The lookup comes first, whatever it tells; what it tells decides what comes after it. -/
theorem exists_remove_of_unknown
    (unknown : client.sheetIds.lookup (location.spreadsheet, location.sheet) = none) :
    ∃ reply,
      (∃ found answer next, (GivesSheets reply → listedId? location.sheet reply = some found) ∧
        remove access transport location numbers client =
          ([⟨access.lookupRequest location, reply⟩,
              ⟨access.deleteRequest location found numbers, answer⟩],
            ⟨next, ((location.spreadsheet, location.sheet), found) :: client.sheetIds⟩)) ∨
      ∃ next, (GivesSheets reply → listedId? location.sheet reply = none) ∧
        remove access transport location numbers client =
          ([⟨access.lookupRequest location, reply⟩], ⟨next, client.sheetIds⟩) := by
  have recorded : client.unrecorded.sheetIds.lookup (location.spreadsheet, location.sheet) =
    none := unknown
  obtain ⟨outcome, done, listed⟩ :=
    exists_sheetId_of_unknown access (recording transport) recorded rfl
  refine ⟨(transport (access.lookupRequest location) client.connection).1, ?_⟩
  cases outcome with
  | ok found =>
      refine .inl ⟨found, ?_⟩
      rw [remove, deleteRows_of_ok access (recording transport) done rfl]
      exact ⟨_, _, fun gives => (listed gives).symm, rfl⟩
  | error failure =>
      refine .inr ?_
      rw [remove, deleteRows_of_error access (recording transport) done]
      exact ⟨_, fun gives => (listed gives).symm, rfl⟩

end Recorded

/-- The course of a removal: what is known of its sheet before, what is exchanged, and what is
known of the sheet afterwards. -/
inductive Course (location : Location) (numbers : List Nat) :
    Option Datum → List Exchanged → Option Datum → Prop
  | remembered (found : Datum) (answer : Reply) :
      Course location numbers (some found)
        [⟨access.deleteRequest location found numbers, answer⟩] (some found)
  | told (found : Datum) (reply answer : Reply)
      (listed : listedId? location.sheet reply = some found) :
      Course location numbers none
        [⟨access.lookupRequest location, reply⟩,
          ⟨access.deleteRequest location found numbers, answer⟩] (some found)
  | missed (reply : Reply) (unlisted : listedId? location.sheet reply = none) :
      Course location numbers none [⟨access.lookupRequest location, reply⟩] none

/-- The lookups among exchanges bring sheets that have titles and numbers, if they bring
any. -/
def LookupsGiveSheets (exchanges : List Exchanged) : Prop :=
  ∀ exchange ∈ exchanges, exchange.request.method = .get → GivesSheets exchange.reply

instance (exchanges : List Exchanged) : Decidable (LookupsGiveSheets exchanges) :=
  inferInstanceAs (Decidable (∀ exchange ∈ exchanges,
    exchange.request.method = .get → GivesSheets exchange.reply))

/-- What came back for the lookups among exchanges. -/
def lookupReplies (exchanges : List Exchanged) : List Reply :=
  (exchanges.filter fun exchange => exchange.request.method == .get).map (·.reply)

namespace Course

variable {access} {location : Location} {numbers : List Nat} {known learned : Option Datum}
  {exchanges : List Exchanged}

theorem batch (course : Course access location numbers known exchanges learned)
    {exchange : Exchanged} (among : exchange ∈ exchanges)
    (isBatch : exchange.request.method = .post) :
    ∃ found, learned = some found ∧
      exchange.request = access.deleteRequest location found numbers := by
  cases course with
  | remembered found answer =>
      rw [List.mem_singleton.mp among]
      exact ⟨found, rfl, rfl⟩
  | told found reply answer listed =>
      rcases List.mem_cons.mp among with rfl | last
      · cases isBatch
      · rw [List.mem_singleton.mp last]
        exact ⟨found, rfl, rfl⟩
  | missed reply unlisted =>
      rw [List.mem_singleton.mp among] at isBatch
      cases isBatch

theorem of_known {found : Datum}
    (course : Course access location numbers (some found) exchanges learned) :
    ∃ answer, exchanges = [⟨access.deleteRequest location found numbers, answer⟩] := by
  cases course with
  | remembered _ answer => exact ⟨answer, rfl⟩

theorem of_unknown (course : Course access location numbers none exchanges learned) :
    ∃ reply later, exchanges = ⟨access.lookupRequest location, reply⟩ :: later ∧
      (listedId? location.sheet reply = none → later = []) ∧
      ∀ found, listedId? location.sheet reply = some found →
        ∃ answer, later = [⟨access.deleteRequest location found numbers, answer⟩] := by
  cases course with
  | told found reply answer listed =>
      refine ⟨reply, _, rfl, ?_, ?_⟩
      · intro unlisted
        rw [unlisted] at listed
        cases listed
      · intro other same
        rw [same] at listed
        cases listed
        exact ⟨answer, rfl⟩
  | missed reply unlisted =>
      refine ⟨reply, [], rfl, fun _ => rfl, ?_⟩
      intro found listed
      rw [unlisted] at listed
      cases listed

/-- What is known after a removal is what was known before it, or else what it has looked up. -/
theorem learned_eq (course : Course access location numbers known exchanges learned) :
    learned = known.or ((lookupReplies exchanges).findSome? (listedId? location.sheet)) := by
  cases course with
  | remembered found answer => rfl
  | told found reply answer listed =>
      change some found = [reply].findSome? (listedId? location.sheet)
      simp [listed]
  | missed reply unlisted =>
      change none = [reply].findSome? (listedId? location.sheet)
      simp [unlisted]

end Course

/-- A removal takes its course, and leaves alone what is known of other sheets. -/
theorem course_remove (location : Location) (numbers : List Nat) (client : Client State)
    (gives : LookupsGiveSheets (remove access transport location numbers client).1) :
    Course access location numbers
        (client.sheetIds.lookup (location.spreadsheet, location.sheet))
        (remove access transport location numbers client).1
        ((remove access transport location numbers client).2.sheetIds.lookup
          (location.spreadsheet, location.sheet)) ∧
      ∀ other, other ≠ (location.spreadsheet, location.sheet) →
        (remove access transport location numbers client).2.sheetIds.lookup other =
          client.sheetIds.lookup other := by
  cases known : client.sheetIds.lookup (location.spreadsheet, location.sheet) with
  | some found =>
      obtain ⟨answer, next, removed⟩ :=
        exists_remove_of_known access transport numbers known
      rw [removed]
      refine ⟨?_, fun _ _ => rfl⟩
      simp only [known]
      exact .remembered found answer
  | none =>
      obtain ⟨reply, ⟨found, answer, next, listed, removed⟩ | ⟨next, unlisted, removed⟩⟩ :=
        exists_remove_of_unknown access transport numbers known
      · rw [removed] at gives ⊢
        have told := listed (gives _ List.mem_cons_self rfl)
        constructor
        · rw [List.lookup_cons_self]
          exact .told found reply answer told
        · -- The new number stands in front, where other keys are looked for first.
          intro other apart
          rw [List.lookup_cons, beq_eq_false_iff_ne.mpr apart]
      · rw [removed] at gives ⊢
        have missed := unlisted (gives _ List.mem_cons_self rfl)
        refine ⟨?_, fun _ _ => rfl⟩
        simp only [known]
        exact .missed reply missed

/-! ### One removal after another -/

/-- A removal of rows, and what is exchanged for it. -/
structure Removal where
  location : Location
  numbers : List Nat
  exchanges : List Exchanged

/-- The spreadsheet and the name of the sheet, by which the number of the sheet is kept. -/
def Removal.key (removal : Removal) : String × String :=
  (removal.location.spreadsheet, removal.location.sheet)

/-- The removals of a client one after another. -/
def removals (client : Client State) : List (Location × List Nat) → List Removal
  | [] => []
  | (location, numbers) :: calls =>
      let (exchanges, after) := remove access transport location numbers client
      ⟨location, numbers, exchanges⟩ :: removals after calls

/-- The number of a sheet by its spreadsheet and its name, in the first of all lookups for them
that lists such a sheet. -/
def firstListed? (key : String × String) (removals : List Removal) : Option Datum :=
  ((removals.filter fun removal => removal.key == key).flatMap fun removal =>
    lookupReplies removal.exchanges).findSome? (listedId? key.2)

variable {access transport} {before : List Removal} {removal : Removal}

theorem firstListed?_append_of_key {key : String × String} (same : removal.key = key) :
    firstListed? key (before ++ [removal]) =
      (firstListed? key before).or
        ((lookupReplies removal.exchanges).findSome? (listedId? key.2)) := by
  simp [firstListed?, List.filter_append, List.findSome?_append, same]

theorem firstListed?_append_of_ne {key : String × String} (other : key ≠ removal.key) :
    firstListed? key (before ++ [removal]) = firstListed? key before := by
  have apart : (removal.key == key) = false := beq_eq_false_iff_ne.mpr other.symm
  simp [firstListed?, List.filter_append, apart]

/-- How a removal deals with the sheet of its location, after earlier ones. -/
structure AimsAtSheet (access : Access) (before : List Removal) (removal : Removal) : Prop where
  /-- Rows are removed from the sheet that the first lookup with such a sheet has told. -/
  batches : ∀ exchange ∈ removal.exchanges, exchange.request.method = .post →
    ∃ found, firstListed? removal.key (before ++ [removal]) = some found ∧
      exchange.request = access.deleteRequest removal.location found removal.numbers
  /-- A sheet that has been told is not looked up again. -/
  known : ∀ found, firstListed? removal.key before = some found →
    ∃ answer, removal.exchanges =
      [⟨access.deleteRequest removal.location found removal.numbers, answer⟩]
  /-- A sheet that has not been told is looked up once, and nothing is removed if the lookup
  does not tell it either. -/
  unknown : firstListed? removal.key before = none →
    ∃ reply later, removal.exchanges = ⟨access.lookupRequest removal.location, reply⟩ :: later ∧
      (listedId? removal.location.sheet reply = none → later = []) ∧
      ∀ found, listedId? removal.location.sheet reply = some found → ∃ answer, later =
        [⟨access.deleteRequest removal.location found removal.numbers, answer⟩]

theorem aimsAtSheet_of_course {learned : Option Datum}
    (course : Course access removal.location removal.numbers (firstListed? removal.key before)
      removal.exchanges learned) : AimsAtSheet access before removal := by
  constructor
  case batches =>
    intro exchange among isBatch
    have learned := course.learned_eq
    rw [firstListed?_append_of_key rfl, Removal.key]
    rw [Removal.key] at learned
    exact learned ▸ course.batch among isBatch
  case known =>
    intro found told
    rw [told] at course
    exact course.of_known
  case unknown =>
    intro untold
    rw [untold] at course
    exact course.of_unknown

/-- The client knows what the lookups so far have told. -/
def Remembers (client : Client State) (before : List Removal) : Prop :=
  ∀ key, client.sheetIds.lookup key = firstListed? key before

theorem remembers_remove {client : Client State} (remembers : Remembers client before)
    (location : Location) (numbers : List Nat)
    (gives : LookupsGiveSheets (remove access transport location numbers client).1) :
    Remembers (remove access transport location numbers client).2
      (before ++ [⟨location, numbers, (remove access transport location numbers client).1⟩]) := by
  obtain ⟨course, others⟩ := course_remove access transport location numbers client gives
  intro key
  by_cases same : key = (location.spreadsheet, location.sheet)
  · subst same
    have here : Removal.key ⟨location, numbers,
      (remove access transport location numbers client).1⟩ =
        (location.spreadsheet, location.sheet) := rfl
    rw [firstListed?_append_of_key here, ← remembers]
    exact course.learned_eq
  · rw [others key same, remembers key]
    exact (firstListed?_append_of_ne same).symm

theorem aimsAtSheet_of_remembers {client : Client State} (remembers : Remembers client before)
    {calls : List (Location × List Nat)}
    (gives : ∀ removal ∈ removals access transport client calls,
      LookupsGiveSheets removal.exchanges)
    {done rest : List Removal}
    (split : removals access transport client calls = done ++ removal :: rest) :
    AimsAtSheet access (before ++ done) removal := by
  induction calls generalizing client before done with
  | nil => simp [removals] at split
  | cons call calls inductionHypothesis =>
      obtain ⟨location, numbers⟩ := call
      rw [removals] at split gives
      have here := gives _ List.mem_cons_self
      cases done with
      | nil =>
          cases split
          have course := (course_remove access transport location numbers client here).1
          rw [remembers] at course
          rw [List.append_nil]
          exact aimsAtSheet_of_course course
      | cons first done =>
          obtain ⟨rfl, later⟩ := List.cons.inj split
          have aims := inductionHypothesis (remembers_remove remembers location numbers here)
            (fun other among => gives other (List.mem_cons_of_mem _ among)) later
          rw [List.append_assoc] at aims
          exact aims

/-- The removals of a client, whatever comes back for its requests: each is sent to the sheet
that the first lookup for its spreadsheet and name has told, that sheet is not looked up again,
and no removal is sent before one has told it. -/
theorem removals_aimAtSheets (connection : State) {calls : List (Location × List Nat)}
    (gives : ∀ removal ∈ removals access transport (.start connection) calls,
      LookupsGiveSheets removal.exchanges) :
    ∀ before removal rest,
      removals access transport (.start connection) calls = before ++ removal :: rest →
      AimsAtSheet access before removal := by
  intro before removal rest split
  have remembers : Remembers (Client.start connection) [] := fun _ => rfl
  exact aimsAtSheet_of_remembers remembers gives split

/-- A service with prepared replies. -/
def prepared : Http.Transport (List Reply)
  | _, [] => (.error "closed", [])
  | _, reply :: replies => (reply, replies)

def stock : Location := ⟨"ledger", "Stock!A:C", "Stock", "A", some "C", 1, none⟩

def stockSheets : String :=
  "\x7b\"sheets\":[\x7b\"properties\":\x7b\"title\":\"Sold\",\"sheetId\":7\x7d\x7d," ++
    "\x7b\"properties\":\x7b\"title\":\"Stock\",\"sheetId\":42\x7d\x7d]\x7d"

/-- Three removals: the connection fails for the first, and the sheet is looked up for the
second. -/
def stockRemovals : List Removal :=
  removals ⟨{}, "key"⟩ prepared
    (.start [.error "refused", .ok ⟨200, stockSheets⟩, .ok ⟨500, ""⟩, .ok ⟨200, "\x7b\x7d"⟩])
    [(stock, [2]), (stock, [2, 4]), (stock, [3])]

theorem stockRemovals_aimAtSheets :
    (∀ removal ∈ stockRemovals, LookupsGiveSheets removal.exchanges) ∧
      ∃ first second third, stockRemovals = [first, second, third] ∧
        (firstListed? third.key [first, second]).isSome = true ∧
        AimsAtSheet ⟨{}, "key"⟩ [first, second] third := by
  have gives : ∀ removal ∈ stockRemovals, LookupsGiveSheets removal.exchanges := by
    decide +kernel
  have aims := removals_aimAtSheets _ gives
  refine ⟨gives, _, _, _, rfl, ?_, aims _ _ [] rfl⟩
  decide +kernel

end GridQuery.Sheets
