import SyntaxPlayground.Proofs.Session.Step
import SyntaxPlayground.Server.Basic

/-!
# What gets through to a session

A command reaches a session in one of two ways: as a request on one of its routes, or as a message on one
of its sockets. Either way it travels as a JSON text, is read field by field and is checked before the
session gets to see it. `Text.StandsFor` says which commands a text asks for, without regard to how the
text is written, and this module compares the two checks:

* `readCommand_eq_ok`, `exists_readCommand_eq_error`: the body of a request is read exactly if the command
  keeps within the limits and its source, if it has one, is not empty;
* `checkedCommand_eq_ok`, `exists_checkedCommand_eq_error`: a message is read exactly if the command keeps
  within the limits.
-/

namespace SyntaxPlayground

/-! ## Reading a body to its end -/

namespace JsonReader

theorem run_start_cons {b : UInt8} (hb : isSpace b = true) (t : Text) :
    run start (b :: t) = run start t := by
  have hstep : step start b = .more start := by
    simp only [step, start, betweenStep, hb, if_true]
  rw [run, hstep]

/-- White space in front of a value does not count. -/
theorem run_start_dropWhile (t : Text) : run start (t.dropWhile isSpace) = run start t := by
  induction t with
  | nil => rfl
  | cons b t ih =>
    by_cases hb : isSpace b = true
    · rw [List.dropWhile_cons_of_pos hb, run_start_cons hb, ih]
    · rw [List.dropWhile_cons_of_neg hb]

end JsonReader

namespace JsonValue

/-- A text that may be read to its end is read as a body like any other text. -/
theorem ofBody_of_ofText? {t : Text} {v : JsonValue} {limit : Nat} (h : ofText? t = some v)
    (hlength : t.length ≤ limit) : ofBody limit t = .ok v := by
  have hnot : ¬ limit < t.length := by omega
  have hrun := JsonReader.run_start_dropWhile t
  unfold ofText? at h
  rw [← hrun] at h
  simp only [ofBody, List.take_of_length_le hlength, hnot, if_false]
  generalize t.dropWhile JsonReader.isSpace = seen at h ⊢
  split
  · -- there is nothing but white space
    cases h
  · -- a comma comes first
    cases h
  · cases h
  · cases hread : JsonReader.run JsonReader.start seen with
    | value w rest =>
      rw [hread] at h
      simp only [Option.ite_none_right_eq_some, Option.some.injEq] at h
      rw [h.2]
    | unfinished s =>
      rw [hread] at h
      simp only at h
      simp only [h]
    | wrong =>
      rw [hread] at h
      cases h

end JsonValue

/-! ## What a text asks for -/

/-- The names of the fields that requests and messages know. -/
def fieldNames : List Text :=
  [utf8 "action", utf8 "source", utf8 "name", utf8 "type", utf8 "target"]

/-- The text of a field; empty if the field is not there. -/
def fieldText (fields : List (Text × Text)) (name : Text) : Text :=
  (fields.lookup name).getD []

/-- A text stands for some fields: it is JSON, and of the fields that requests and messages know it has
these ones and no others. -/
def Text.StandsFor (t : Text) (fields : List (Text × Text)) : Prop :=
  ∃ v record, JsonValue.ofText? t = some v ∧ v.record? = some record ∧
    ∀ name ∈ fieldNames, JsonValue.textField? record name = some (fieldText fields name)

namespace Command

/-- The route that a command has. -/
def route : Command → SessionRoute
  | .parse _ => .run .parse
  | .tokenize _ => .run .tokenize
  | .interpret _ => .run .interpret
  | .loadSample _ => .sample
  | .event .. => .event
  | .snapshot => .look

/-- What a command is called on a socket. -/
def action : Command → Text
  | .parse _ => utf8 "parse"
  | .tokenize _ => utf8 "tokenize"
  | .interpret _ => utf8 "interpret"
  | .loadSample _ => utf8 "sample"
  | .event .. => utf8 "event"
  | .snapshot => utf8 "snapshot"

/-- The fields that a command has in a request. -/
def fields : Command → List (Text × Text)
  | .parse source | .tokenize source | .interpret source => [(utf8 "source", source)]
  | .loadSample name => [(utf8 "name", name)]
  | .event kind target => [(utf8 "type", kind), (utf8 "target", target)]
  | .snapshot => []

/-- The fields that a command has in a message. -/
def messageFields (c : Command) : List (Text × Text) :=
  (utf8 "action", c.action) :: c.fields

/-- The source that a command is about. -/
def source? : Command → Option Text
  | .parse source | .tokenize source | .interpret source => some source
  | .loadSample _ | .event .. | .snapshot => none

/-- The command keeps within the limits: its source is not longer than `max` bytes; a sample has a name of
at most 64 characters; and an event has one of the kinds that there are, and a target of at most 32
characters. -/
def IsWithin (max : Int) : Command → Prop
  | .parse source | .tokenize source | .interpret source => (source.length : Int) ≤ max
  | .loadSample name => name ≠ [] ∧ name.runeCount ≤ 64
  | .event kind target => kind ∈ eventNames ∧ target ≠ [] ∧ target.runeCount ≤ 32
  | .snapshot => True

instance (max : Int) : (c : Command) → Decidable (c.IsWithin max)
  | .parse source | .tokenize source | .interpret source =>
    inferInstanceAs (Decidable ((source.length : Int) ≤ max))
  | .loadSample name => inferInstanceAs (Decidable (name ≠ [] ∧ name.runeCount ≤ 64))
  | .event kind target =>
    inferInstanceAs (Decidable (kind ∈ eventNames ∧ target ≠ [] ∧ target.runeCount ≤ 32))
  | .snapshot => inferInstanceAs (Decidable True)

open Session (asking)

/-- Every command is about a source, a sample or an event, or asks for a snapshot. -/
theorem forms (c : Command) : (∃ op source, c = asking op source) ∨ (∃ name, c = .loadSample name) ∨
    (∃ kind target, c = .event kind target) ∨ c = .snapshot := by
  cases c with
  | parse source => exact Or.inl ⟨.parse, source, rfl⟩
  | tokenize source => exact Or.inl ⟨.tokenize, source, rfl⟩
  | interpret source => exact Or.inl ⟨.interpret, source, rfl⟩
  | loadSample name => exact Or.inr (Or.inl ⟨name, rfl⟩)
  | event kind target => exact Or.inr (Or.inr (Or.inl ⟨kind, target, rfl⟩))
  | snapshot => exact Or.inr (Or.inr (Or.inr rfl))

variable (op : Operation) (source : Text)

@[simp] theorem route_asking : (asking op source).route = .run op := by
  cases op <;> rfl

@[simp] theorem fields_asking : (asking op source).fields = [(utf8 "source", source)] := by
  cases op <;> rfl

@[simp] theorem source?_asking : (asking op source).source? = some source := by
  cases op <;> rfl

@[simp] theorem isWithin_asking {max : Int} :
    (asking op source).IsWithin max ↔ (source.length : Int) ≤ max := by
  cases op <;> rfl

end Command

/-! ## Checking fields -/

namespace FieldRule

@[simp] theorem accepts_required (t : Text) : required.accepts t = true ↔ t ≠ [] := by
  cases t <;> simp [accepts]

@[simp] theorem accepts_atMost (n : Nat) (t : Text) : (atMost n).accepts t = true ↔ t.runeCount ≤ n := by
  simp [accepts]

@[simp] theorem accepts_oneOf (options : List Text) (t : Text) :
    (oneOf options).accepts t = true ↔ t ∈ options := by
  simp [accepts]

end FieldRule

/-- Nothing is wrong with a field if it keeps to all its rules, or is empty and may be so. -/
theorem CheckedField.problem?_eq_none_iff {f : CheckedField} :
    f.problem? = none ↔
      f.mayBeEmpty = true ∧ f.text = [] ∨ ∀ r ∈ f.rules, r.accepts f.text = true := by
  unfold problem?
  by_cases hempty : f.mayBeEmpty = true ∧ f.text = []
  · simp [hempty]
  · have hchecked : ¬ (f.mayBeEmpty && f.text.isEmpty) = true := by
      simpa using hempty
    rw [if_neg hchecked, Option.map_eq_none_iff, List.find?_eq_none]
    simp [hempty]

theorem problems?_eq_none_iff {fields : List CheckedField} :
    problems? fields = none ↔ ∀ f ∈ fields, f.problem? = none := by
  rw [← List.filterMap_eq_nil_iff]
  unfold problems?
  split
  · next hnil => simp [hnil]
  · next hsome => simpa using hsome

/-! ## Requests -/

theorem mapM_eq_some {α β : Type} {f : α → Option β} {g : α → β} {l : List α}
    (h : ∀ a ∈ l, f a = some (g a)) : l.mapM f = some (l.map g) := by
  induction l with
  | nil => rfl
  | cons a l ih =>
    have hrest := ih fun b hb => h b (List.mem_cons_of_mem a hb)
    rw [List.mapM_cons, h a List.mem_cons_self, hrest]
    rfl

/-- The fields of a body are read as they stand in it. -/
theorem readBody_of_standsFor {max : Int} {body : Text} {fields : List (Text × Text)}
    (hbody : body.StandsFor fields) (hfits : body.length ≤ bodyLimit max) {names : List Text}
    (hnames : names ⊆ fieldNames) : readBody max names body = .ok (names.map (fieldText fields)) := by
  obtain ⟨v, record, hread, hrecord, htexts⟩ := hbody
  have hmap : names.mapM (JsonValue.textField? record) = some (names.map (fieldText fields)) :=
    mapM_eq_some fun name hname => htexts name (hnames hname)
  simp only [readBody, JsonValue.ofBody_of_ofText? hread hfits, hrecord, Option.bind_some, hmap]

theorem checkSource_of_le {max : Int} {source : Text} (h : (source.length : Int) ≤ max) :
    checkSource max source = .ok source := by
  rw [checkSource, if_neg (by omega)]

theorem checkSource_of_lt {max : Int} {source : Text} (h : max < source.length) :
    checkSource max source = .error (.sourceTooLong max) := by
  rw [checkSource, if_pos h]

namespace Command

/-- What is checked of a command in a request, besides the length of its source. -/
def checks : Command → List CheckedField
  | .parse source | .tokenize source | .interpret source =>
    [⟨utf8 "source", source, [.required], false⟩]
  | .loadSample name => [⟨utf8 "name", name, [.required, .atMost 64], false⟩]
  | .event kind target =>
    [⟨utf8 "type", kind, [.required, .oneOf eventNames], false⟩,
      ⟨utf8 "target", target, [.required, .atMost 32], false⟩]
  | .snapshot => []

/-- The source of a command is not longer than `max` bytes. -/
def Fits (max : Int) (c : Command) : Prop :=
  ∀ source, c.source? = some source → (source.length : Int) ≤ max

open Session (asking)

@[simp] theorem checks_asking (op : Operation) (source : Text) :
    (asking op source).checks = [⟨utf8 "source", source, [.required], false⟩] := by
  cases op <;> rfl

/-- An event that is one of those there are has a kind. -/
theorem ne_nil_of_mem_eventNames {kind : Text} (h : kind ∈ eventNames) : kind ≠ [] := by
  rintro rfl
  exact absurd h (by decide)

/-- The checks of a request are the limits, and that the source is not empty. -/
theorem problems?_checks_eq_none_iff {max : Int} {c : Command} :
    (problems? c.checks = none ∧ c.Fits max) ↔ (c.IsWithin max ∧ c.source? ≠ some []) := by
  rw [problems?_eq_none_iff]
  rcases c.forms with ⟨op, source, rfl⟩ | ⟨name, rfl⟩ | ⟨kind, target, rfl⟩ | rfl
  · simp [CheckedField.problem?_eq_none_iff, Fits, and_comm]
  · simp [CheckedField.problem?_eq_none_iff, checks, Fits, source?, IsWithin]
  · have hkind : kind ≠ [] ∧ kind ∈ eventNames ↔ kind ∈ eventNames :=
      and_iff_right_of_imp ne_nil_of_mem_eventNames
    simp [CheckedField.problem?_eq_none_iff, checks, Fits, source?, IsWithin, hkind]
  · simp [checks, Fits, source?, IsWithin]

end Command

namespace Server

open Session (asking)

variable {max : Int} {body : Text} {c : Command}

/-- How a request is read on the route of its command. -/
theorem readCommand_route (h : body.StandsFor c.fields) (hfits : body.length ≤ bodyLimit max) :
    readCommand max c.route body =
      match problems? c.checks with
      | some m => .error (.invalid m)
      | none =>
        match c.source? with
        | some source => (checkSource max source).map fun _ => c
        | none => .ok c := by
  rcases c.forms with ⟨op, source, rfl⟩ | ⟨name, rfl⟩ | ⟨kind, target, rfl⟩ | rfl
  · -- a source, whose length is checked only if it is not empty
    rw [Command.fields_asking] at h
    have hread : readBody max [utf8 "source"] body = .ok [source] :=
      readBody_of_standsFor h hfits (by decide)
    simp only [Command.route_asking, Command.checks_asking, Command.source?_asking, readCommand, hread,
      bind, Except.bind, List.getD_cons_zero]
    cases problems? [⟨utf8 "source", source, [.required], false⟩] with
    | some m => rfl
    | none =>
      by_cases hlength : (source.length : Int) ≤ max
      · rw [checkSource_of_le hlength]
        cases op <;> rfl
      · rw [checkSource_of_lt (by omega)]
        rfl
  · -- the name of a sample
    have hread : readBody max [utf8 "name"] body = .ok [name] :=
      readBody_of_standsFor h hfits (by decide)
    simp only [Command.route, Command.checks, Command.source?, readCommand, hread, bind, Except.bind,
      List.getD_cons_zero]
    cases problems? [⟨utf8 "name", name, [.required, .atMost 64], false⟩] with
    | some m => rfl
    | none => rfl
  · -- an event, with both of its fields checked together
    have hread : readBody max [utf8 "type", utf8 "target"] body = .ok [kind, target] :=
      readBody_of_standsFor h hfits (by decide)
    simp only [Command.route, Command.checks, Command.source?, readCommand, hread, bind, Except.bind,
      List.getD_cons_zero, List.getD_cons_succ]
    cases problems? [
      ⟨utf8 "type", kind, [.required, .oneOf eventNames], false⟩,
      ⟨utf8 "target", target, [.required, .atMost 32], false⟩] with
    | some m => rfl
    | none => rfl
  · rfl

/-- A request is read if its command keeps within the limits and its source is not empty. -/
theorem readCommand_eq_ok (h : body.StandsFor c.fields) (hfits : body.length ≤ bodyLimit max)
    (hwithin : c.IsWithin max) (hsource : c.source? ≠ some []) :
    readCommand max c.route body = .ok c := by
  obtain ⟨hchecks, hlength⟩ := Command.problems?_checks_eq_none_iff.mpr ⟨hwithin, hsource⟩
  rw [readCommand_route h hfits, hchecks]
  cases hc : c.source? with
  | none => rfl
  | some source => simp only [checkSource_of_le (hlength source hc), Except.map]

/-- Any other request is refused, as a bad one or as one that is too long. -/
theorem exists_readCommand_eq_error (h : body.StandsFor c.fields) (hfits : body.length ≤ bodyLimit max)
    (hnot : ¬ (c.IsWithin max ∧ c.source? ≠ some [])) :
    ∃ e : BodyProblem, readCommand max c.route body = .error e ∧ (e.status = 400 ∨ e.status = 413) := by
  rw [← Command.problems?_checks_eq_none_iff] at hnot
  rw [readCommand_route h hfits]
  cases hchecks : problems? c.checks with
  | some m => exact ⟨.invalid m, rfl, Or.inl rfl⟩
  | none =>
    -- nothing is wrong with the fields, so the source must be too long
    have hlong : ¬ c.Fits max := fun hfit => hnot ⟨hchecks, hfit⟩
    simp only [Command.Fits, Classical.not_forall, Int.not_le] at hlong
    obtain ⟨source, hc, hlt⟩ := hlong
    refine ⟨.sourceTooLong max, ?_, Or.inr rfl⟩
    simp only [hc, checkSource_of_lt hlt, Except.map]

end Server

/-! ## Messages -/

/-- The message that asks for a command. -/
def Command.message (c : Command) : Server.SocketMessage where
  action := c.action
  source := fieldText c.fields (utf8 "source")
  name := fieldText c.fields (utf8 "name")
  kind := fieldText c.fields (utf8 "type")
  target := fieldText c.fields (utf8 "target")

theorem Command.action_mem_actions (c : Command) : c.action ∈ Server.SocketMessage.actions := by
  cases c <;> simp [action, Server.SocketMessage.actions]

namespace Server.SocketMessage

open Session (asking)

variable {max : Int} {m : SocketMessage} {c : Command}

theorem fieldText_messageFields {name : Text} (h : name ≠ utf8 "action") :
    fieldText c.messageFields name = fieldText c.fields name := by
  simp only [fieldText, Command.messageFields, List.lookup_cons, beq_false_of_ne h]

/-- The fields of a message are read as they stand in it. -/
theorem read?_of_standsFor {data : Text} (h : data.StandsFor c.messageFields) :
    read? data = some c.message := by
  obtain ⟨v, record, hread, hrecord, htexts⟩ := h
  have haction : JsonValue.textField? record (utf8 "action") = some c.action :=
    (htexts _ (by decide)).trans (by simp [fieldText, Command.messageFields])
  have hother : ∀ name ∈ fieldNames, name ≠ utf8 "action" →
      JsonValue.textField? record name = some (fieldText c.fields name) := by
    intro name hname hne
    rw [htexts name hname, fieldText_messageFields hne]
  simp only [read?, hread, hrecord, haction, hother (utf8 "source") (by decide) (by decide),
    hother (utf8 "name") (by decide) (by decide), hother (utf8 "type") (by decide) (by decide),
    hother (utf8 "target") (by decide) (by decide), bind, Option.bind, pure, Command.message]

/-- What is checked of a message that asks for something there is. -/
theorem problem?_eq_none_iff (h : m.action ∈ actions) :
    m.problem? = none ↔
      m.name.runeCount ≤ 64 ∧ (m.kind = [] ∨ m.kind ∈ eventNames) ∧ m.target.runeCount ≤ 32 := by
  have hsome : m.action ≠ [] := by
    intro hnil
    rw [hnil] at h
    exact absurd h (by decide)
  simp [problem?, problems?_eq_none_iff, CheckedField.problem?_eq_none_iff, h, hsome]

@[simp] theorem message_asking (op : Operation) (source : Text) :
    (asking op source).message = ⟨op.name, source, [], [], []⟩ := by
  cases op <;> rfl

@[simp] theorem message_sample (name : Text) :
    (Command.loadSample name).message = ⟨utf8 "sample", [], name, [], []⟩ := by
  rfl

@[simp] theorem message_event (kind target : Text) :
    (Command.event kind target).message = ⟨utf8 "event", [], [], kind, target⟩ := by
  rfl

@[simp] theorem message_snapshot : Command.snapshot.message = ⟨utf8 "snapshot", [], [], [], []⟩ := by
  rfl

theorem command_message_asking (op : Operation) (source : Text) :
    (asking op source).message.command max =
      match checkSource max source with
      | .error e => .error e.message
      | .ok source => .ok (asking op source) := by
  cases op <;> rfl

theorem command_message_sample (name : Text) :
    (Command.loadSample name).message.command max =
      if name = [] then .error (utf8 "name is required") else .ok (.loadSample name) := by
  rfl

theorem command_message_event (kind target : Text) :
    (Command.event kind target).message.command max =
      if kind = [] ∨ target = [] then .error (utf8 "type and target are required")
      else .ok (.event kind target) := by
  rfl

/-- Nothing is wrong with the fields of a message whose command keeps within the limits. -/
theorem problem?_message (h : c.IsWithin max) : c.message.problem? = none := by
  have hnil : Text.runeCount [] ≤ 64 ∧ Text.runeCount [] ≤ 32 := by decide
  rw [problem?_eq_none_iff c.action_mem_actions]
  rcases c.forms with ⟨op, source, rfl⟩ | ⟨name, rfl⟩ | ⟨kind, target, rfl⟩ | rfl
  · simp [hnil]
  · simp [hnil, h.2]
  · simp [hnil, h.1, h.2.2]
  · simp [hnil]

/-- A message is read if its command keeps within the limits. -/
theorem checkedCommand_eq_ok (h : c.IsWithin max) : c.message.checkedCommand max = .ok c := by
  simp only [checkedCommand, problem?_message h]
  rcases c.forms with ⟨op, source, rfl⟩ | ⟨name, rfl⟩ | ⟨kind, target, rfl⟩ | rfl
  · rw [command_message_asking, checkSource_of_le ((Command.isWithin_asking op source).mp h)]
  · rw [command_message_sample, if_neg h.1]
  · have hsome : ¬ (kind = [] ∨ target = []) :=
      not_or.mpr ⟨Command.ne_nil_of_mem_eventNames h.1, h.2.1⟩
    rw [command_message_event, if_neg hsome]
  · rfl

/-- Any other message is refused. -/
theorem exists_checkedCommand_eq_error (h : ¬ c.IsWithin max) :
    ∃ problem, c.message.checkedCommand max = .error problem := by
  simp only [checkedCommand]
  cases hproblem : c.message.problem? with
  | some problem => exact ⟨problem, rfl⟩
  | none =>
    -- the fields are not too long, so one is missing or the source is too long
    rw [problem?_eq_none_iff c.action_mem_actions] at hproblem
    rcases c.forms with ⟨op, source, rfl⟩ | ⟨name, rfl⟩ | ⟨kind, target, rfl⟩ | rfl
    · rw [Command.isWithin_asking, Int.not_le] at h
      simp only [command_message_asking, checkSource_of_lt h]
      exact ⟨_, rfl⟩
    · -- a name that is not too long is missing
      have hnil : name = [] := by
        apply Decidable.byContradiction
        intro hne
        exact h ⟨hne, hproblem.1⟩
      simp only [command_message_sample, if_pos hnil]
      exact ⟨_, rfl⟩
    · -- an event whose fields are right as far as they are there
      obtain ⟨-, hkind, htarget⟩ := hproblem
      have hnil : kind = [] ∨ target = [] := by
        apply Decidable.byContradiction
        intro hne
        obtain ⟨hkind', htarget'⟩ := not_or.mp hne
        exact h ⟨hkind.resolve_left hkind', htarget', htarget⟩
      simp only [command_message_event, if_pos hnil]
      exact ⟨_, rfl⟩
    · exact absurd trivial h

end Server.SocketMessage

end SyntaxPlayground
