import UserPlane.Proofs.Json.Entities
import UserPlane.Proofs.Outcome
import UserPlane.Tool.Run

/-! # What a run accounts for

Of the elements of an input some are **translated** and the others **refused**. A single element is
reported as one or the other: what it becomes is printed, with warnings at most, or nothing is
printed and the refusal is logged as an error (`Tool.Reports`). A run goes over the elements one
after another, and no element keeps a later one from being reported; so the run **accounts for** all
of them (`Tool.Accounts`): it prints what the translated ones become, in order, it logs each
refusal, in order, and then how many there were, and it fails if there was one. -/

namespace UserPlane.Tool

variable {α β : Type}

/-! ## Elements that are translated or refused -/

section Split

variable (translate : α → Except Unsupported β)

/-- What the elements become that are translated, in order. -/
def translated (xs : List α) : List β := xs.filterMap fun x => (translate x).toOption

/-- Why those elements are refused that are not translated, in order. -/
def refusals (xs : List α) : List Unsupported := xs.filterMap fun x => failure? (translate x)

variable {translate} {x : α} {xs : List α}

/-- An element that is translated stands before what later ones become. -/
theorem translated_cons_of_ok {y : β} (hx : translate x = .ok y) :
    translated translate (x :: xs) = y :: translated translate xs := by
  rw [translated, List.filterMap_cons, hx]
  rfl

/-- An element that is refused becomes nothing. -/
theorem translated_cons_of_error {u : Unsupported} (hx : translate x = .error u) :
    translated translate (x :: xs) = translated translate xs := by
  rw [translated, List.filterMap_cons, hx]
  rfl

/-- An element that is translated is not refused. -/
theorem refusals_cons_of_ok {y : β} (hx : translate x = .ok y) :
    refusals translate (x :: xs) = refusals translate xs := by
  rw [refusals, List.filterMap_cons, hx]
  rfl

/-- An element that is refused stands before later refusals. -/
theorem refusals_cons_of_error {u : Unsupported} (hx : translate x = .error u) :
    refusals translate (x :: xs) = u :: refusals translate xs := by
  rw [refusals, List.filterMap_cons, hx]
  rfl

/-- Nothing is refused exactly if everything is translated. -/
theorem refusals_eq_nil_iff : refusals translate xs = [] ↔ ∀ x ∈ xs, ∃ y, translate x = .ok y := by
  rw [refusals, List.filterMap_eq_nil_iff]
  refine forall₂_congr fun x _ => ?_
  cases translate x with
  | ok y => exact iff_of_true rfl ⟨y, rfl⟩
  | error u => exact iff_of_false nofun nofun

/-- No element is lost, and none is counted twice. -/
theorem length_translated_add_refusals (xs : List α) :
    (translated translate xs).length + (refusals translate xs).length = xs.length := by
  induction xs with
  | nil => rfl
  | cons x xs ih =>
    cases hx : translate x with
    | ok y =>
      rw [translated_cons_of_ok hx, refusals_cons_of_ok hx, List.length_cons, List.length_cons]
      omega
    | error u =>
      rw [translated_cons_of_error hx, refusals_cons_of_error hx, List.length_cons,
        List.length_cons]
      omega

end Split

/-! ## Single elements -/

/-- How an element is reported, by what its translation gives. -/
inductive Reports (write : β → Json) : Except Unsupported β → Result → Prop where
  /-- A value is printed, with warnings at most. -/
  | printed (y : β) {log : List LogRecord} (hlog : ∀ r ∈ log, r.level = .warn) :
    Reports write (.ok y) ⟨some (write y), log⟩
  /-- A refusal is logged, and nothing is printed. -/
  | refused (u : Unsupported) : Reports write (.error u) ⟨none, rejection u⟩

/-- The entry that programs an entity, without an advisory on it. -/
def entryFor (e : Entity) : Except Unsupported TableEntry := EncodedEntry.entry <$> e.encode

/-- A device entity is reported as its kind, or as none. -/
theorem reports_classifyOne (d : DeviceEntity) :
    Reports (Json.orNull EntityKind.toJson) (.ok d.kind?) (classifyOne d) := by
  have hvalue : classifyOne d = ⟨some (Json.orNull EntityKind.toJson d.kind?), []⟩ := by
    rw [classifyOne]
    cases d.kind? with
    | _ => rfl
  rw [hvalue]
  exact .printed _ nofun

/-- A table entry is reported as its entity. -/
theorem reports_decodeOne (e : TableEntry) : Reports Entity.toJson e.decode (decodeOne e) := by
  rw [decodeOne]
  cases e.decode with
  | ok entity => exact .printed entity nofun
  | error u => exact .refused u

/-- An entity is reported as its entry, and warned of if it has been changed. -/
theorem reports_encodeOne (e : Entity) : Reports TableEntry.toJson (entryFor e) (encodeOne e) := by
  rw [encodeOne, entryFor]
  cases e.encode with
  | ok encoded =>
    refine .printed encoded.entry ?_
    intro r hr
    obtain ⟨advisory, -, rfl⟩ := List.mem_map.mp hr
    rfl
  | error u => exact .refused u

/-! ## Logs -/

/-- What is logged at a level, in order. -/
def messagesAt (level : Level) (log : List LogRecord) : List String :=
  (log.filter fun r => r.level = level).map LogRecord.message

/-- What is logged later comes later. -/
theorem messagesAt_append (level : Level) (log later : List LogRecord) :
    messagesAt level (log ++ later) = messagesAt level log ++ messagesAt level later := by
  rw [messagesAt, List.filter_append, List.map_append]
  rfl

/-- Warnings are logged at their own level only. -/
theorem messagesAt_eq_nil_of_warnings {level : Level} (hlevel : level ≠ .warn)
    {log : List LogRecord} (hlog : ∀ r ∈ log, r.level = .warn) : messagesAt level log = [] := by
  rw [messagesAt, List.map_eq_nil_iff, List.filter_eq_nil_iff]
  intro r hr heq
  exact hlevel ((of_decide_eq_true heq).symm.trans (hlog r hr))

/-! ## Runs -/

/-- How the elements of an input are told by their results. -/
structure Tells (translate : α → Except Unsupported β) (write : β → Json) (xs : List α)
    (results : List Result) : Prop where
  /-- What is printed is what the elements become. -/
  printed_eq : printed results = (translated translate xs).map write
  /-- As many become nothing as are refused. -/
  failureCount_eq : failureCount results = (refusals translate xs).length
  /-- The errors are the refusals. -/
  errors_eq : messagesAt .error (results.flatMap Result.log) =
    (refusals translate xs).map Unsupported.message
  /-- Nothing is said about the elements as a whole. -/
  infos_eq : messagesAt .info (results.flatMap Result.log) = []

namespace Tells

variable {translate : α → Except Unsupported β} {write : β → Json} {x : α} {xs : List α}
  {result : Result} {results : List Result}

/-- One more element is told if it is reported. -/
theorem cons (hx : Reports write (translate x) result) (h : Tells translate write xs results) :
    Tells translate write (x :: xs) (result :: results) := by
  obtain ⟨hprinted, hcount, herrors, hinfos⟩ := h
  generalize hr : translate x = r at hx
  cases hx with
  | printed y hlog =>
    have hsilent := fun (level : Level) (hlevel : level ≠ .warn) =>
      messagesAt_eq_nil_of_warnings hlevel hlog
    constructor
    · show write y :: printed results = _
      rw [hprinted, translated_cons_of_ok hr, List.map_cons]
    · rw [failureCount, List.countP_cons_of_neg Bool.false_ne_true, ← failureCount, hcount,
        refusals_cons_of_ok hr]
    · rw [List.flatMap_cons, messagesAt_append, hsilent .error nofun, herrors,
        refusals_cons_of_ok hr, List.nil_append]
    · rw [List.flatMap_cons, messagesAt_append, hsilent .info nofun, hinfos, List.nil_append]
  | refused u =>
    have herror : messagesAt .error (rejection u) = [u.message] := by
      cases u with
      | _ => rfl
    have hinfo : messagesAt .info (rejection u) = [] := by
      cases u with
      | _ => rfl
    constructor
    · show printed results = _
      rw [hprinted, translated_cons_of_error hr]
    · rw [failureCount, List.countP_cons_of_pos rfl, ← failureCount, hcount,
        refusals_cons_of_error hr, List.length_cons]
    · rw [List.flatMap_cons, messagesAt_append, herror, herrors, refusals_cons_of_error hr,
        List.map_cons]
      rfl
    · rw [List.flatMap_cons, messagesAt_append, hinfo, hinfos, List.nil_append]

/-- All elements are told if each is reported. -/
theorem of_reports {one : α → Result} (h : ∀ x, Reports write (translate x) (one x))
    (xs : List α) : Tells translate write xs (xs.map one) := by
  induction xs with
  | nil => exact ⟨rfl, rfl, rfl, rfl⟩
  | cons x xs ih => exact ih.cons (h x)

end Tells

/-- What a run owes to each of its elements. -/
structure Accounts (translate : α → Except Unsupported β) (write : β → Json)
    (read : Json → Option β) (xs : List α) (o : Outcome) : Prop where
  /-- What is printed is one array of what the elements become. -/
  output_eq : o.output = Json.write .pretty (.array ((translated translate xs).map write)) ++ "\n"
  /-- The output is read as what the elements become. -/
  readText_output : Json.readText (Json.list? read) o.output = .ok (translated translate xs)
  /-- Each refusal is logged as an error. -/
  errors_eq : messagesAt .error o.log = (refusals translate xs).map Unsupported.message
  /-- If there are refusals, it is logged how many. -/
  infos_eq : messagesAt .info o.log = if (refusals translate xs).length = 0 then []
    else [(summary (refusals translate xs).length).message]
  /-- Each element is printed or refused. -/
  length_eq : (translated translate xs).length + (refusals translate xs).length = xs.length
  /-- The run fails if there is a refusal. -/
  exitCode_eq : o.exitCode = if (refusals translate xs).length = 0 then 0 else 1

namespace Accounts

variable {translate : α → Except Unsupported β} {write : β → Json} {read : Json → Option β}
  {xs : List α} {o : Outcome}

/-- A run whose elements are told accounts for them, if lists are read as they are printed. -/
theorem of_tells {results : List Result} (h : Tells translate write xs results) {room : Nat}
    (hread : Json.Faithful room (fun ys => .array (ys.map write)) (Json.list? read))
    (hroom : room ≤ Json.maxDepth) : Accounts translate write read xs (report results) where
  output_eq := by
    rw [report, h.printed_eq]
  readText_output := by
    rw [report, h.printed_eq]
    exact hread.readText_write_line hroom .pretty (translated translate xs)
  errors_eq := by
    rw [report, messagesAt_append, h.errors_eq]
    split
    · exact List.append_nil _
    · exact List.append_nil _
  infos_eq := by
    rw [report, messagesAt_append, h.infos_eq, h.failureCount_eq, List.nil_append]
    split
    · rfl
    · rfl
  length_eq := length_translated_add_refusals xs
  exitCode_eq := by
    rw [report, h.failureCount_eq]

/-- A run that accounts for its elements succeeds exactly if all of them are translated. -/
theorem exitCode_eq_zero_iff (h : Accounts translate write read xs o) :
    o.exitCode = 0 ↔ ∀ x ∈ xs, ∃ y, translate x = .ok y := by
  rw [h.exitCode_eq, ← refusals_eq_nil_iff, ← List.length_eq_zero_iff]
  by_cases hnone : (refusals translate xs).length = 0
  · rw [if_pos hnone]
    exact iff_of_true rfl hnone
  · rw [if_neg hnone]
    exact iff_of_false (by decide) hnone

end Accounts

/-- What a run owes to device entities whose kinds it tells. -/
structure Classifies (ds : List DeviceEntity) (o : Outcome) : Prop where
  /-- What is printed is one array with the name of a kind, or null, for each of them. -/
  output_eq : o.output =
    Json.write .pretty (.array (ds.map fun d => Json.orNull EntityKind.toJson d.kind?)) ++ "\n"
  /-- The output is read as the kinds of the elements. -/
  readText_output : Json.readText (Json.list? (Json.nullable? EntityKind.ofJson?)) o.output =
    .ok (ds.map DeviceEntity.kind?)
  /-- The run succeeds. -/
  exitCode_eq : o.exitCode = 0

/-- A run that accounts for device entities tells the kind of each, since it refuses none. -/
theorem Accounts.classifies {ds : List DeviceEntity} {o : Outcome}
    (h : Accounts (fun d : DeviceEntity => .ok d.kind?) (Json.orNull EntityKind.toJson)
      (Json.nullable? EntityKind.ofJson?) ds o) : Classifies ds o := by
  have hkinds : translated (fun d : DeviceEntity => .ok d.kind?) ds = ds.map DeviceEntity.kind? :=
    congrFun List.filterMap_eq_map ds
  have houtput := h.output_eq
  have hread := h.readText_output
  rw [hkinds] at houtput hread
  rw [List.map_map] at houtput
  exact ⟨houtput, hread, h.exitCode_eq_zero_iff.mpr fun d _ => ⟨d.kind?, rfl⟩⟩

/-- What a run owes to a text of elements that are read in one way. -/
structure Settles (input : Json → Option α) (translate : α → Except Unsupported β)
    (write : β → Json) (read : Json → Option β) (text : String) (o : Outcome) : Prop where
  /-- If the text cannot be read, nothing is printed and the run fails. -/
  of_error : ∀ failure, Json.readText (Json.list? input) text = .error failure →
    o.output = "" ∧ o.exitCode = 1
  /-- If the text can be read, each element is accounted for. -/
  of_ok : ∀ xs, Json.readText (Json.list? input) text = .ok xs →
    Accounts translate write read xs o

/-- A text is settled by converting all its elements, if each conversion is reported. -/
theorem settles_convertAll {input : Json → Option α} {translate : α → Except Unsupported β}
    {write : β → Json} {read : Json → Option β} {one : α → Result}
    (h : ∀ x, Reports write (translate x) (one x)) {room : Nat}
    (hread : Json.Faithful room (fun ys => .array (ys.map write)) (Json.list? read))
    (hroom : room ≤ Json.maxDepth) (file text : String) :
    Settles input translate write read text (convertAll input one file text) where
  of_error := by
    intro failure hfailure
    rw [convertAll, hfailure]
    exact ⟨rfl, rfl⟩
  of_ok := by
    intro xs hxs
    rw [convertAll, hxs]
    exact .of_tells (.of_reports h xs) hread hroom

section Commands

variable {i : Invocation} (text : String)

/-- A call to classify settles a text of device entities. -/
theorem settles_classify (hi : i.command = .classify) :
    Settles DeviceEntity.ofJson? (fun d => .ok d.kind?) (Json.orNull EntityKind.toJson)
      (Json.nullable? EntityKind.ofJson?) text (perform i (.ok text)) := by
  rw [perform, hi]
  exact settles_convertAll reports_classifyOne (EntityKind.faithful 0).arrayOrNull (by decide) _ _

/-- A call to decode settles a text of table entries. -/
theorem settles_decode (hi : i.command = .decode) :
    Settles TableEntry.ofJson? TableEntry.decode Entity.toJson Entity.ofJson? text
      (perform i (.ok text)) := by
  rw [perform, hi]
  exact settles_convertAll reports_decodeOne (Entity.faithful 0).array (by decide) _ _

/-- A call to encode settles a text of entities. -/
theorem settles_encode (hi : i.command = .encode) :
    Settles Entity.ofJson? entryFor TableEntry.toJson TableEntry.ofJson? text
      (perform i (.ok text)) := by
  rw [perform, hi]
  exact settles_convertAll reports_encodeOne (TableEntry.faithful 0).array (by decide) _ _

end Commands

/-- Which records of the log are shown makes no difference to what is printed and to the exit code,
as long as it is told. -/
theorem runWith_eq_of_choice {choice : LogChoice} {environment : Option String} {i : Invocation}
    {shows : LogRecord → Bool} (hchoice : choice environment i.logLevel = some shows)
    (contents : Except String String) :
    (runWith choice environment i contents).output = (perform i contents).output ∧
      (runWith choice environment i contents).exitCode = (perform i contents).exitCode := by
  rw [runWith, hchoice]
  exact ⟨rfl, rfl⟩

/-- **The tool loses nothing and invents nothing.** A text that cannot be read leads to a failure
without output. Otherwise a call to decode or to encode prints one array of just what the elements
become that are translated, logs each refusal of another one and how many there were, and succeeds
exactly if there was none; and a call to classify prints a kind or null for each element, and
succeeds. None of this depends on how it is chosen which records of the log are shown, as long as
the choice is made. -/
theorem perform_settles (i : Invocation) (text : String) :
    (i.command = .decode →
        Settles TableEntry.ofJson? TableEntry.decode Entity.toJson Entity.ofJson? text
          (perform i (.ok text))) ∧
      (i.command = .encode →
        Settles Entity.ofJson? entryFor TableEntry.toJson TableEntry.ofJson? text
          (perform i (.ok text))) ∧
      (i.command = .classify →
        (∀ failure, Json.readText (Json.list? DeviceEntity.ofJson?) text = .error failure →
          (perform i (.ok text)).output = "" ∧ (perform i (.ok text)).exitCode = 1) ∧
        ∀ ds, Json.readText (Json.list? DeviceEntity.ofJson?) text = .ok ds →
          Classifies ds (perform i (.ok text))) ∧
      ∀ (choice : LogChoice) environment shows, choice environment i.logLevel = some shows →
        (runWith choice environment i (.ok text)).output = (perform i (.ok text)).output ∧
          (runWith choice environment i (.ok text)).exitCode =
            (perform i (.ok text)).exitCode := by
  refine ⟨settles_decode text, settles_encode text, ?_, ?_⟩
  · intro hi
    have hsettles := settles_classify text hi
    exact ⟨hsettles.of_error, fun ds hds => (hsettles.of_ok ds hds).classifies⟩
  · intro choice environment shows hchoice
    exact runWith_eq_of_choice hchoice _

/-- An entity that nothing programs, between two that something does. -/
def unevenEntities : List Entity :=
  [.tunnelPeer ⟨2, ⟨0x0a000001⟩, ⟨0x0a000002⟩, 2152⟩, .counter ⟨7⟩,
    .uplinkSession ⟨⟨0x0a000003⟩, 300, true⟩]

/-- Of a tunnel peer, a counter and a session, the counter is refused and counted, and does not keep
the session from being encoded, also when the log is shown from the level `info` on. -/
theorem perform_encode_unevenEntities :
    ∃ text, Json.readText (Json.list? Entity.ofJson?) text = .ok unevenEntities ∧
      ∃ first last : TableEntry,
        (perform ⟨"info", false, .encode, "-"⟩ (.ok text)).output =
            Json.write .pretty (.array [first.toJson, last.toJson]) ++ "\n" ∧
          first.table = .tunnelPeers ∧ last.table = .uplinkSessions ∧
          messagesAt .info (perform ⟨"info", false, .encode, "-"⟩ (.ok text)).log =
            ["1 input(s) could not be translated"] ∧
          (perform ⟨"info", false, .encode, "-"⟩ (.ok text)).exitCode = 1 ∧
          (run none ⟨"info", false, .encode, "-"⟩ (.ok text)).output =
            Json.write .pretty (.array [first.toJson, last.toJson]) ++ "\n" ∧
          (run none ⟨"info", false, .encode, "-"⟩ (.ok text)).exitCode = 1 := by
  have htext := (Entity.faithful 0).array.readText_write (by decide) .compact unevenEntities
  obtain ⟨-, hencode, -, hrun⟩ := perform_settles ⟨"info", false, .encode, "-"⟩
    (Json.write .compact (.array (unevenEntities.map Entity.toJson)))
  have haccounts := (hencode rfl).of_ok _ htext
  obtain ⟨houtput, hexit⟩ := hrun shown? none _ (shown?_name (.upTo .info))
  exact ⟨_, htext, _, _, haccounts.output_eq, rfl, rfl, haccounts.infos_eq, haccounts.exitCode_eq,
    houtput.trans haccounts.output_eq, hexit.trans haccounts.exitCode_eq⟩

end UserPlane.Tool
