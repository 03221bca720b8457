import LintRemedy.Proofs.Oracle.Session

/-!
This module contains the trails of sessions: the work that turns to files and the calls of the oracle
in between, with the session that is due after them. Where all files have a name, a session that is
due was named in work on the same file.
-/

namespace LintRemedy

/-- To turn from one file to another is a switch if both have a name and the names differ. -/
def isSwitch (previous file : Option String) : Bool :=
  match previous, file.filter (· ≠ "") with
  | some previous, some name => previous ≠ name
  | _, _ => false

theorem Conversation.turnTo_eq (file : Option String) (conversation : Conversation) :
    (conversation.turnTo file).2 =
      { handle := if isSwitch conversation.file file then none else conversation.handle
        file := (file.filter (· ≠ "")).or conversation.file
        resets := conversation.resets + if isSwitch conversation.file file then 1 else 0 } := by
  obtain ⟨handle, current, resets⟩ := conversation
  cases file with
  | none => cases current <;> rfl
  | some name =>
    by_cases empty : name = ""
    · cases current <;> simp [turnTo, isSwitch, Option.filter_some, empty]
    · cases current with
      | none => simp [turnTo, isSwitch, Option.filter_some, empty]
      | some previous =>
        by_cases same : previous = name
        · simp [turnTo, isSwitch, Option.filter_some, empty, same]
        · simp [turnTo, reset, isSwitch, Option.filter_some, empty, same]

/-- What concerns a session: the work turns to a file, or the oracle is asked. -/
inductive Incident where
  | turned (file : Option String)
  | asked (call : Oracle.Call)

/-- The incidents of a run, the last one first. -/
abbrev Trail := List Incident

namespace Trail

/-- The file of the work that is going on. -/
def unit? : Trail → Option String
  | [] => none
  | .turned file :: _ => file
  | .asked _ :: earlier => unit? earlier

/-- The last file that has a name. Work without one is passed over. -/
def file? : Trail → Option String
  | [] => none
  | .turned file :: earlier => (file.filter (· ≠ "")).or (file? earlier)
  | .asked _ :: earlier => file? earlier

def switches : Trail → Nat
  | [] => 0
  | .turned file :: earlier => switches earlier + if isSwitch (file? earlier) file then 1 else 0
  | .asked _ :: earlier => switches earlier

/-- The session that a reply has named last since the last switch. -/
def session? (channel : Oracle.Channel) : Trail → Option String
  | [] => none
  | .turned file :: earlier => if isSwitch (file? earlier) file then none else session? channel earlier
  | .asked call :: earlier => (channel.carried? call).or (session? channel earlier)

/-- Every call is made under the session that is due. -/
def Threads (channel : Oracle.Channel) (trail : Trail) : Prop :=
  ∀ later call earlier, trail = later ++ .asked call :: earlier →
    call.handle = session? channel earlier

/-- All work is on files that have a name, and every call belongs to some work. -/
def Named : Trail → Prop
  | [] => True
  | .turned file :: earlier => (∃ name, name ≠ "" ∧ file = some name) ∧ Named earlier
  | .asked _ :: earlier => (unit? earlier).isSome ∧ Named earlier

/-- A session was named by the last reply that has named any, in work on the file of the work that is
going on. -/
def Inherits (channel : Oracle.Channel) (trail : Trail) (session : String) : Prop :=
  ∃ between origin before file, trail = between ++ .asked origin :: before ∧
    channel.carried? origin = some session ∧
    (∀ other, .asked other ∈ between → channel.carried? other = none) ∧
    unit? before = some file ∧ trail.unit? = some file

/-- No session is taken up in work on another file than the one where it was named. -/
def Isolated (channel : Oracle.Channel) (trail : Trail) : Prop :=
  ∀ later call earlier session, trail = later ++ .asked call :: earlier →
    call.handle = some session → Inherits channel earlier session

variable {channel : Oracle.Channel} {trail earlier later : Trail} {calls : List Oracle.Call}

section Asked

theorem unit?_asked (calls : List Oracle.Call) (trail : Trail) :
    unit? (calls.map .asked ++ trail) = trail.unit? := by
  induction calls with
  | nil => rfl
  | cons _ _ ih => exact ih

theorem file?_asked (calls : List Oracle.Call) (trail : Trail) :
    file? (calls.map .asked ++ trail) = trail.file? := by
  induction calls with
  | nil => rfl
  | cons _ _ ih => exact ih

theorem switches_asked (calls : List Oracle.Call) (trail : Trail) :
    switches (calls.map .asked ++ trail) = trail.switches := by
  induction calls with
  | nil => rfl
  | cons _ _ ih => exact ih

theorem session?_asked (calls : List Oracle.Call) (trail : Trail) :
    session? channel (calls.map .asked ++ trail) = channel.renewed calls (trail.session? channel) := by
  induction calls with
  | nil => rfl
  | cons call calls ih =>
    change (channel.carried? call).or (session? channel (calls.map .asked ++ trail)) = _
    rw [Oracle.Channel.renewed_cons, ih]

end Asked

namespace Threads

theorem nil : Threads channel [] := by
  intro later call earlier h
  exact (List.append_ne_nil_of_right_ne_nil later (List.cons_ne_nil _ earlier) h.symm).elim

theorem turned (threads : Threads channel trail) (file : Option String) :
    Threads channel (.turned file :: trail) := by
  intro later call earlier h
  cases later with
  | nil => cases h
  | cons _ later =>
    cases h
    exact threads later call earlier rfl

theorem asked (threads : Threads channel trail)
    (sent : ∀ later call earlier, calls = later ++ call :: earlier →
      call.handle = channel.renewed earlier (trail.session? channel)) :
    Threads channel (calls.map .asked ++ trail) := by
  induction calls with
  | nil => exact threads
  | cons first calls ih =>
    intro later call earlier h
    cases later with
    | nil =>
      obtain ⟨hcall, rfl⟩ := List.cons.inj h
      cases hcall
      exact (sent [] first calls rfl).trans (session?_asked calls trail).symm
    | cons _ later =>
      refine ih ?_ later call earlier (List.cons.inj h).2
      intro later call earlier hcalls
      exact sent (first :: later) call earlier (congrArg (List.cons first) hcalls)

end Threads

theorem Named.of_append (named : Named (later ++ earlier)) : Named earlier := by
  induction later with
  | nil => exact named
  | cons incident later ih =>
    cases incident with
    | turned => exact ih named.2
    | asked => exact ih named.2

theorem Named.asked (named : Named trail) (unit : trail.unit?.isSome)
    (calls : List Oracle.Call) : Named (calls.map .asked ++ trail) := by
  induction calls with
  | nil => exact named
  | cons _ calls ih =>
    exact ⟨(congrArg Option.isSome (unit?_asked calls trail)).trans unit, ih⟩

theorem Named.unit?_eq (named : Named trail) : trail.unit? = trail.file? := by
  induction trail with
  | nil => rfl
  | cons incident earlier ih =>
    cases incident with
    | turned file =>
      obtain ⟨⟨name, filled, rfl⟩, _⟩ := named
      simp [unit?, file?, Option.filter_some, filled]
    | asked => exact ih named.2

theorem Inherits.cons {session : String} {incident : Incident}
    (inherits : Inherits channel earlier session)
    (silent : ∀ call, incident = .asked call → channel.carried? call = none)
    (unit : unit? (incident :: earlier) = unit? earlier) :
    Inherits channel (incident :: earlier) session := by
  obtain ⟨between, origin, before, file, rfl, carried, last, hbefore, hunit⟩ := inherits
  refine ⟨incident :: between, origin, before, file, rfl, carried, ?_, hbefore, unit.trans hunit⟩
  intro other hother
  rcases List.mem_cons.1 hother with hother | hother
  · exact silent other hother.symm
  · exact last other hother

/-- Where all work is on files that have a name, the session that is due was named in work on the same
file. -/
theorem Named.inherits (named : Named trail) {session : String}
    (h : trail.session? channel = some session) : Inherits channel trail session := by
  induction trail with
  | nil => cases h
  | cons incident earlier ih =>
    cases incident with
    | turned file =>
      obtain ⟨⟨name, filled, rfl⟩, named⟩ := named
      unfold session? at h
      split at h
      · cases h
      · next same =>
        have inherits := ih named h
        refine inherits.cons nofun ?_
        obtain ⟨_, _, _, file, _, _, _, _, hunit⟩ := inherits
        -- The work has not changed its file since, as that would have been a switch.
        have hfile := hunit
        rw [named.unit?_eq] at hfile
        have heq : file = name := by
          simpa [isSwitch, Option.filter_some, filled, hfile] using same
        rw [hunit, heq]
        rfl
    | asked call =>
      unfold session? at h
      cases hcarried : channel.carried? call with
      | some carried =>
        rw [hcarried] at h
        cases h
        obtain ⟨file, hfile⟩ := Option.isSome_iff_exists.1 named.1
        exact ⟨[], call, earlier, file, rfl, hcarried, nofun, hfile, hfile⟩
      | none =>
        rw [hcarried] at h
        refine (ih named.2 h).cons ?_ rfl
        rintro _ ⟨⟩
        exact hcarried

/-- Where all work is on files that have a name, it is enough to make calls under the session that is
due. -/
theorem Named.isolated (named : Named trail) (threads : Threads channel trail) :
    Isolated channel trail := by
  rintro later call earlier session rfl handle
  rw [threads later call earlier rfl] at handle
  exact named.of_append.2.inherits handle

/-- A conversation stands where a trail has led. -/
structure Holds (channel : Oracle.Channel) (trail : Trail) (conversation : Conversation) :
    Prop where
  handle : conversation.handle = trail.session? channel
  file : conversation.file = trail.file?
  resets : conversation.resets = trail.switches

theorem Holds.turned {conversation : Conversation} (holds : Holds channel trail conversation)
    (file : Option String) :
    Holds channel (.turned file :: trail) (conversation.turnTo file).2 := by
  rw [Conversation.turnTo_eq, holds.handle, holds.file, holds.resets]
  exact ⟨rfl, rfl, rfl⟩

theorem Holds.asked {talk talk' : Talk} (holds : Holds channel trail talk.conversation)
    (carries : channel.Carries talk calls talk')
    (handle : talk'.conversation.handle = channel.renewed calls talk.conversation.handle) :
    Holds channel (calls.map .asked ++ trail) talk'.conversation where
  handle := by rw [handle, holds.handle, session?_asked]
  file := by rw [carries.file, holds.file, file?_asked]
  resets := by rw [carries.resets, holds.resets, switches_asked]

theorem session?_ne_empty (channel : Oracle.Channel) (trail : Trail) :
    trail.session? channel ≠ some "" := by
  induction trail with
  | nil => nofun
  | cons incident earlier ih =>
    cases incident with
    | turned file =>
      unfold session?
      split
      · nofun
      · exact ih
    | asked call =>
      unfold session?
      cases hcarried : channel.carried? call with
      | none => exact ih
      | some session =>
        intro h
        cases h
        exact channel.carried?_ne_empty call hcarried

theorem Threads.handle_ne_empty {call : Oracle.Call} (threads : trail.Threads channel)
    (h : .asked call ∈ trail) : call.handle ≠ some "" := by
  obtain ⟨later, earlier, hsplit⟩ := List.append_of_mem h
  rw [threads later call earlier hsplit]
  exact session?_ne_empty channel earlier

end Trail
end LintRemedy
