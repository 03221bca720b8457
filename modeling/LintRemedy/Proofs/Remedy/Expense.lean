import LintRemedy.Proofs.Oracle.Session
import LintRemedy.Proofs.World.Spending

/-!
This module contains what a bundle costs: every fix in it takes an answer of the oracle, and once there
are no answers left there are no fixes either.
-/

namespace LintRemedy

open LintRemedy.Action

/-- The number of answers of the oracle that are left. -/
def World.repliesLeft (world : World) : Nat :=
  world.replies.length

/-- The number of answers that a reply takes: one if it has a payload. -/
def Reply.cost (reply : Reply) : Nat :=
  reply.outcome.toOption.isSome.toNat

theorem Reply.cost_le (reply : Reply) : reply.cost ≤ 1 :=
  Bool.toNat_le _

namespace Oracle.Channel

variable {channel : Channel} {prompt : String} {schema : Schema} {handle : Option String}
  {world : World}

theorem repliesLeft_answered (world : World) :
    (answered world).repliesLeft = world.repliesLeft - 1 := by
  unfold answered World.repliesLeft
  cases hreplies : world.replies with
  | nil =>
    dsimp only
    rw [hreplies]
    rfl
  | cons answer replies => rfl

def Replied : Option Exchange → Prop
  | some (.replied ..) => True
  | _ => False

theorem not_replied_of_readAgent {fields : List String} {program : String} {status : Int}
    {exchange : Exchange} (h : readAgent fields program status "" "" = .ok exchange) :
    ¬ Replied (some exchange) := by
  cases h
  exact id

theorem not_replied_of_readResponse {fields : List String} {transport : Transport} {status : Nat}
    {address : Address} {exchange : Exchange}
    (h : readResponse fields transport status address (.text "") = .ok exchange) :
    ¬ Replied (some exchange) := by
  have decoded : Json.decodeBytes (Content.text "").bytes =
      .error (.notJson (.malformed .noValue 0 1 1)) := by decide +kernel
  unfold readResponse at h
  rw [decoded] at h
  split at h
  · cases h
    exact id
  · cases h
    exact id

/-- Nothing is sent, and the provider does not reply. Or else an answer is taken, and past the end of
all answers the provider does not reply either. -/
theorem sent_or_not {exchange? : Option Exchange}
    (h : channel.exchange prompt schema handle world = .ok exchange?) :
    ((channel.sentWorld prompt schema handle world).repliesLeft = world.repliesLeft ∧
        ¬ Replied exchange?) ∨
      (channel.sentWorld prompt schema handle world).repliesLeft = world.repliesLeft - 1 ∧
        (world.repliesLeft = 0 → ¬ Replied exchange?) := by
  have due : world.repliesLeft = 0 →
      dueOutcome channel.provider world = .finished 1 (.text "") (.text "") ∨
        dueOutcome channel.provider world = .responded 503 (.text "") := by
    intro none
    unfold dueOutcome
    rw [List.eq_nil_of_length_eq_zero none]
    change exhausted _ = _ ∨ exhausted _ = _
    unfold exhausted
    split
    · exact .inl rfl
    · exact .inr rfl
  unfold exchange at h
  unfold sentWorld
  cases hstart : channel.approach prompt schema handle world with
  | ended outcome =>
    rw [hstart] at h
    obtain ⟨reason?, _, rfl⟩ := Outcome.map_eq_ok.1 h
    refine .inl ⟨rfl, ?_⟩
    cases reason? <;> exact id
  | mute fault =>
    rw [hstart] at h
    cases h
    refine .inr ⟨repliesLeft_answered world, ?_⟩
    intro _
    unfold muteExchange
    split <;> exact id
  | agent =>
    rw [hstart] at h
    refine .inr ⟨repliesLeft_answered world, ?_⟩
    intro none
    rcases due none with exhausted | exhausted
    all_goals
      rw [exhausted] at h
      obtain ⟨_, hread, rfl⟩ := Outcome.map_eq_ok.1 h
      exact not_replied_of_readAgent hread
  | service address authorization =>
    rw [hstart] at h
    refine .inr ⟨repliesLeft_answered world, ?_⟩
    intro none
    rcases due none with exhausted | exhausted
    all_goals
      rw [exhausted] at h
      obtain ⟨_, hread, rfl⟩ := Outcome.map_eq_ok.1 h
      exact not_replied_of_readResponse hread

theorem replied_of_payload {exchange? : Option Exchange} {reply : Reply}
    {payload : Json} (h : channel.replyOf handle exchange? = .ok reply)
    (houtcome : reply.outcome = .ok payload) : Replied exchange? := by
  cases exchange? with
  | none =>
    obtain ⟨_, _, h⟩ := Outcome.bind_eq_ok.1 h
    cases h
    cases houtcome
  | some exchange =>
    cases exchange with
    | failed reason =>
      cases h
      cases houtcome
    | replied => exact trivial

theorem request_spends (prompt : String) (schema : Schema) (handle : Option String) :
    Spends World.repliesLeft Reply.cost (channel.request prompt schema handle) := by
  intro world reply world' h
  rw [request_eq, Act.ofExcept_eq_ok] at h
  obtain ⟨hreply, rfl⟩ := h
  obtain ⟨exchange?, hexchange, hreply⟩ := Outcome.bind_eq_ok.1 hreply
  have hsent := sent_or_not hexchange
  unfold Reply.cost
  cases houtcome : reply.outcome with
  | error reason =>
    change _ + 0 ≤ _
    rcases hsent with ⟨hleft, _⟩ | ⟨hleft, _⟩
    · omega
    · omega
  | ok payload =>
    have replied := replied_of_payload hreply houtcome
    change _ + 1 ≤ _
    rcases hsent with ⟨_, silent⟩ | ⟨hleft, silent⟩
    · exact (silent replied).elim
    · have some : world.repliesLeft ≠ 0 := fun none => silent none replied
      omega

end Oracle.Channel

namespace Remedy

variable {channel : Oracle.Channel} {window : Int}

theorem converse_spends (prompt : String) (schema : Schema) :
    Spends (fun talk : Talk => talk.world.repliesLeft) Reply.cost
      (converse (channel.request prompt schema)) := by
  unfold converse
  apply Spends.bind_of_free .of_get
  intro talk
  apply (Dialogue.ofAct_spends (channel.request_spends prompt schema _)).bind_of_share
  intro reply
  exact .bind_of_modify (.of_pure (Nat.sub_self _)) fun _ => rfl

theorem inquire_spends {α : Type} (read : Json → Except Json.RenderFault (Option α))
    (prompt : String) (schema : Schema) :
    Spends (fun talk : Talk => talk.world.repliesLeft) (fun _ => 0)
      (inquire read (channel.request prompt schema)) := by
  apply Spends.bind_of_free ((converse_spends _ _).mono fun _ => Nat.zero_le _)
  intro _
  exact Dialogue.ofAct_spends (.of_keeps (Act.ofExcept_keeps _ _))

theorem cost_of_payload {reply : Reply} {payload : Json} (h : payloadIn? reply = some payload) :
    reply.cost = 1 := by
  unfold payloadIn? at h
  unfold Reply.cost
  cases houtcome : reply.outcome with
  | ok v => rfl
  | error reason =>
    rw [houtcome] at h
    cases h

theorem replacementAt_spends (rule message : String) (location : Location) :
    Spends (fun talk : Talk => talk.world.repliesLeft) (fun p => p.1.toList.length)
      (replacementAt channel window rule message location) := by
  unfold replacementAt
  apply Spends.bind_of_free (Dialogue.ofAct_spends (.of_keeps (currentLines_keeps _)))
  intro lines?
  cases lines? with
  | none => exact .of_pure rfl
  | some lines =>
    apply (converse_spends _ _).bind_of_share
    intro reply
    cases hpayload : payloadIn? reply with
    | none => exact .of_pure (Nat.zero_sub _)
    | some payload =>
      rw [cost_of_payload hpayload]
      apply Spends.bind_of_free (Dialogue.ofAct_spends (.of_keeps (currentLines_keeps _)))
      intro lines?
      cases lines? with
      | none => exact .of_pure rfl
      | some lines =>
        apply Spends.of_pure
        cases fixOf? location.fileFull lines payload <;> rfl

theorem replacementsAt_spends (rule message : String) (locations : List Location) :
    Spends (fun talk : Talk => talk.world.repliesLeft) (fun p => p.1.length)
      (replacementsAt channel window rule message locations) := by
  induction locations with
  | nil => exact .of_pure rfl
  | cons location locations ih =>
    unfold replacementsAt
    apply (replacementAt_spends rule message location).bind_of_share
    rintro ⟨fix?, replied⟩
    change Spends _ (fun p : List Replacement × Bool => p.1.length - fix?.toList.length) _
    apply ih.bind_of_share
    rintro ⟨fixes, repliedLater⟩
    apply Spends.of_pure
    rw [List.length_append, Nat.add_sub_cancel_left]
    exact Nat.sub_self _

def fixCount (bundle? : Option Bundle) : Nat :=
  (bundle?.map (·.fixes.length)).getD 0

/-- Every fix in a bundle takes an answer of the oracle. -/
theorem gather_spends (group : RuleGroup) (config : String) :
    Spends (fun talk : Talk => talk.world.repliesLeft) fixCount
      (gather channel window group config) := by
  unfold gather
  split
  · exact .of_pure rfl
  · apply Spends.bind_of_free (inquire_spends explanation? _ _)
    intro _
    apply Spends.bind_of_free (inquire_spends configChange? _ _)
    intro _
    apply (replacementsAt_spends _ _ _).bind_of_share
    rintro ⟨fixes, replied⟩
    dsimp only
    split
    · exact .of_pure (Nat.zero_sub _)
    · exact .of_pure (Nat.sub_self _)

end Remedy

end LintRemedy
