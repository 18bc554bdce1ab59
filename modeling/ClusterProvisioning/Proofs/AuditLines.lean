import ClusterProvisioning.Apply
import ClusterProvisioning.Gateway.ApiServer
import Mathlib.Algebra.GroupWithZero.Nat

/-!
# Lines of the audit log

Every audit event is written as a record and a line feed. A record shows the names of its object as
they are, so the log has a line for each event and one more for each line break in those names
(`log_lines`). Without such a break its lines are the records; with some of them the record of one
event reads as those of any number of events.
-/

namespace ClusterProvisioning.Proofs
open Program

/-- The characters that end a line. -/
def lineEnds : List Char := ['\n', '\x0b', '\x0c', '\r', '\x85', '\u2028', '\u2029']

def breaksLine (c : Char) : Bool := c ∈ lineEnds

/-- How many line breaks a text has. -/
def lineBreaks (s : String) : Nat := s.toList.countP breaksLine

/-- How many line breaks there are in the names that a record shows of an object. -/
def refBreaks (r : Ref) : Nat :=
  lineBreaks r.kind.name + lineBreaks r.kind.group + lineBreaks r.ns + lineBreaks r.name

/-- The record of an event at a time in milliseconds. -/
def auditRecord (millis : Nat) (event : AuditEvent) : String :=
  s!"{millis} {event.line}"

/-- What stands in a record before the object. -/
def recordHead (millis : Nat) (action : AuditAction) : String :=
  s!"{millis} action={Text.quote action.word} object="

/-- The audit log after some events, each with its time. -/
def auditText : List (Nat × AuditEvent) → String
  | [] => ""
  | (millis, event) :: rest => auditRecord millis event ++ "\n" ++ auditText rest

/-- The lines of a text, what follows the last line break aside. -/
def endedLines (s : String) : List String :=
  (s.toList.splitOnP breaksLine).dropLast.map String.ofList

/-! ### Counting line breaks -/

@[simp] theorem lineBreaks_append (s t : String) :
    lineBreaks (s ++ t) = lineBreaks s + lineBreaks t := by
  simp only [lineBreaks, String.toList_append, List.countP_append]

theorem lineBreaks_digits (n : Nat) : lineBreaks (toString n) = 0 := by
  have digits : (toString n).toList = Nat.toDigits 10 n := Nat.toList_repr
  rw [lineBreaks, digits, List.countP_eq_zero]
  intro c hc broken
  have digit : c.isDigit = true := Nat.isDigit_of_mem_toDigits (by decide) (by decide) hc
  have none : lineEnds.all (fun c => !c.isDigit) = true := by decide
  have apart := List.all_eq_true.mp none c (of_decide_eq_true broken)
  rw [digit] at apart
  cases apart

theorem lineBreaks_kind (k : Kind) :
    lineBreaks (toString k) = lineBreaks k.name + lineBreaks k.group := by
  change lineBreaks (if k.group = "" then k.name else s!"{k.name}.{k.group}") = _
  split
  next core => rw [core]; rfl
  next =>
    change lineBreaks (k.name ++ "." ++ k.group) = _
    simp only [lineBreaks_append]
    rfl

theorem lineBreaks_ref (r : Ref) : lineBreaks (toString r) = refBreaks r := by
  have fields : toString r = toString r.kind ++ " " ++ r.ns ++ "/" ++ r.name := rfl
  have signs : lineBreaks " " = 0 ∧ lineBreaks "/" = 0 := by decide
  rw [fields]
  simp only [lineBreaks_append, lineBreaks_kind, signs, refBreaks]
  rfl

theorem auditRecord_eq (millis : Nat) (event : AuditEvent) :
    auditRecord millis event = recordHead millis event.action ++ toString event.target := by
  change toString millis ++ " " ++ ("action=" ++ Text.quote event.action.word ++ " object=" ++
    toString event.target) = toString millis ++ (" " ++ "action=") ++
      Text.quote event.action.word ++ " object=" ++ toString event.target
  simp only [String.append_assoc]

theorem lineBreaks_recordHead (millis : Nat) (action : AuditAction) :
    lineBreaks (recordHead millis action) = 0 := by
  have signs : lineBreaks " action=" = 0 ∧ lineBreaks " object=" = 0 := by decide
  have quoted : lineBreaks (Text.quote action.word) = 0 := by cases action <;> decide
  change lineBreaks (toString millis ++ " action=" ++ Text.quote action.word ++ " object=") = 0
  simp only [lineBreaks_append, lineBreaks_digits, signs, quoted]

theorem lineBreaks_record (millis : Nat) (event : AuditEvent) :
    lineBreaks (auditRecord millis event) = refBreaks event.target := by
  rw [auditRecord_eq, lineBreaks_append, lineBreaks_recordHead, lineBreaks_ref, Nat.zero_add]

theorem lineBreaks_auditText (entries : List (Nat × AuditEvent)) :
    lineBreaks (auditText entries) =
      entries.length + (entries.map fun entry => refBreaks entry.2.target).sum := by
  induction entries with
  | nil => rfl
  | cons entry rest ih =>
    rw [auditText, lineBreaks_append, lineBreaks_append, ih, lineBreaks_record]
    have feed : lineBreaks "\n" = 1 := by decide
    rw [feed, List.length_cons, List.map_cons, List.sum_cons]
    omega

/-! ### Lines -/

theorem length_splitOnP {α : Type} (p : α → Bool) (l : List α) :
    (l.splitOnP p).length = l.countP p + 1 := by
  induction l with
  | nil => rw [List.splitOnP_nil]; rfl
  | cons x rest ih =>
    rw [List.splitOnP_cons_eq_if_modifyHead, List.countP_cons]
    split
    · rw [List.length_cons, ih]
    · rw [List.length_modifyHead, ih, Nat.add_zero]

theorem length_endedLines (s : String) : (endedLines s).length = lineBreaks s := by
  rw [endedLines, List.length_map, List.length_dropLast, length_splitOnP]
  rfl

theorem endedLines_cons {s : String} (whole : lineBreaks s = 0) (t : String) :
    endedLines (s ++ "\n" ++ t) = s :: endedLines t := by
  have unbroken : ∀ c ∈ s.toList, breaksLine c = false := by
    simpa only [lineBreaks, List.countP_eq_zero, Bool.not_eq_true] using whole
  have split : (s ++ "\n" ++ t).toList.splitOnP breaksLine =
      s.toList :: t.toList.splitOnP breaksLine := by
    rw [String.toList_append, String.toList_append, List.append_assoc]
    exact List.splitOnP_append_cons_of_forall_mem unbroken '\n' (by decide) t.toList
  rw [endedLines, split, List.dropLast_cons_of_ne_nil (List.splitOnP_ne_nil _ _), List.map_cons,
    String.ofList_toList]
  rfl

theorem endedLines_auditText {entries : List (Nat × AuditEvent)}
    (unbroken : (entries.map fun entry => refBreaks entry.2.target).sum = 0) :
    endedLines (auditText entries) =
      entries.map fun entry => auditRecord entry.1 entry.2 := by
  induction entries with
  | nil => rfl
  | cons entry rest ih =>
    rw [List.map_cons, List.sum_cons, Nat.add_eq_zero_iff] at unbroken
    rw [auditText, endedLines_cons ((lineBreaks_record _ _).trans unbroken.1), ih unbroken.2]
    rfl

/-! ### Forged records -/

/-- A log ends with the object of its last event. -/
theorem auditText_last (millis : Nat) (event : AuditEvent) (entries : List (Nat × AuditEvent)) :
    ∃ before, auditText ((millis, event) :: entries) = recordHead millis event.action ++
      (before ++ toString (entries.getLastD (millis, event)).2.target) ++ "\n" := by
  induction entries generalizing millis event with
  | nil =>
    refine ⟨"", ?_⟩
    rw [auditText, auditRecord_eq, String.empty_append]
    exact String.append_empty
  | cons entry rest ih =>
    obtain ⟨before, hrest⟩ := ih entry.1 entry.2
    refine ⟨toString event.target ++ "\n" ++ recordHead entry.1 entry.2.action ++ before, ?_⟩
    rw [auditText, hrest, auditRecord_eq, List.getLastD_cons]
    simp only [String.append_assoc]

theorem toString_longer (before : String) (r : Ref) :
    toString ({ r with kind := { r.kind with name := before ++ r.kind.name } } : Ref) =
      before ++ toString r := by
  have kind : toString ({ r.kind with name := before ++ r.kind.name } : Kind) =
      before ++ toString r.kind := by
    change (if r.kind.group = "" then before ++ r.kind.name
      else before ++ r.kind.name ++ "." ++ r.kind.group) =
        before ++ if r.kind.group = "" then r.kind.name else r.kind.name ++ "." ++ r.kind.group
    split
    · rfl
    · simp only [String.append_assoc]
  change toString ({ r.kind with name := before ++ r.kind.name } : Kind) ++ " " ++ r.ns ++ "/" ++
    r.name = before ++ (toString r.kind ++ " " ++ r.ns ++ "/" ++ r.name)
  rw [kind]
  simp only [String.append_assoc]

/-- The audit log has a line for each event and one for each line break in the names of an object.
Its lines are the records of the events exactly if there is no such break. One event can leave the
log that any further events would leave, through the name of a kind alone. -/
theorem log_lines (entries : List (Nat × AuditEvent)) :
    let lines := endedLines (auditText entries)
    let breaks := (entries.map fun entry => refBreaks entry.2.target).sum
    lines.length = entries.length + breaks ∧
      (lines = (entries.map fun entry => auditRecord entry.1 entry.2) ↔ breaks = 0) ∧
      ∀ millis event, ∃ name,
        let last := (entries.getLastD (millis, event)).2.target
        auditText [(millis, ⟨event.action, { last with kind := { last.kind with name } }⟩)] =
          auditText ((millis, event) :: entries) := by
  intro lines breaks
  have count : lines.length = entries.length + breaks :=
    (length_endedLines _).trans (lineBreaks_auditText entries)
  refine ⟨count, ⟨fun records => ?_, endedLines_auditText⟩, fun millis event => ?_⟩
  · rw [records, List.length_map] at count
    omega
  · obtain ⟨before, hlog⟩ := auditText_last millis event entries
    refine ⟨before ++ (entries.getLastD (millis, event)).2.target.kind.name, ?_⟩
    intro last
    rw [hlog, auditText, auditRecord_eq, toString_longer]
    exact String.append_empty

/-- A pod whose kind goes by a name of two lines. -/
def twoLinePod : Ref :=
  ⟨⟨"", "v1", "Pod lab/eve\n2 action=\"delete\" object=Pod", "pods"⟩, "lab", "bob"⟩

/-- The teardown of one unit leaves the audit log of two. -/
theorem delete_forges_record :
    let answers : ApiServer.Script := ⟨[.answered 200 "\x7b\x7d"], []⟩
    let events := ((Apply.teardown [twoLinePod]).run ApiServer.gateway answers).2.2
    let log := auditText [(1, ⟨.delete, twoLinePod⟩)]
    auditTrail events = [⟨.delete, twoLinePod⟩] ∧ (endedLines log).length = 2 ∧
      log = auditText
        [(1, ⟨.delete, ⟨.pod, "lab", "eve"⟩⟩), (2, ⟨.delete, ⟨.pod, "lab", "bob"⟩⟩)] :=
  ⟨by decide +kernel, by decide, by decide⟩

end ClusterProvisioning.Proofs
