import CxlFabric.RequestReply

/-! # The exchange behind a reply

A reply ends an exchange that is part of the conversation, and an exchange makes the call
that its request asks for once. -/
namespace CxlFabric

/-- The type of the frame that asks for an operation. -/
def Op.requestType : Op → Option FrameType
  | .registerDevice _ _ => some .publishDevice
  | .reserve _ _ => some .reserve
  | .commit _ _ => some .commit
  | .release _ _ => some .release
  | .createPool _ _ => some .publishPool
  | .createRegion _ _ => some .publishRegion
  | _ => none

def Event.performs (type : FrameType) : Event → Bool
  | .call op _ => op.requestType = some type
  | _ => false

namespace Coordinator

/-- The reply ends an exchange that the frame began, and the exchange is in the
conversation. -/
def Answered (At : StateSnapshot → Prop) (ctx : AuthorityContext) (evts : List Event)
    (f resp : Frame) : Prop :=
  ∃ x, Exchange At ctx f (x ++ [.reply resp]) ∧ ∀ e ∈ x, e ∈ evts

section talk
variable {At : StateSnapshot → Prop} {ctx : AuthorityContext} {f resp : Frame} {p : Phase}
  {x evts evts' : List Event}

theorem Answered.mono (h : Answered At ctx evts f resp) (hsub : ∀ e ∈ evts, e ∈ evts') :
    Answered At ctx evts' f resp := by
  obtain ⟨x, hx, hmem⟩ := h
  exact ⟨x, hx, fun e he => hsub e (hmem e he)⟩

theorem Exchange.answered (h : Exchange At ctx f x) :
    List.Forall₂ (Answered At ctx x) (answerable [f]) (replies x) := by
  have hone (hf : f.type ≠ .shutdown) : answerable [f] = [f] := by simp [answerable, hf]
  have hlast {y : List Event} {resp : Frame} (h : Exchange At ctx f (y ++ [.reply resp]))
      (hf : f.type ≠ .shutdown) (hreplies : replies (y ++ [.reply resp]) = [resp]) :
      List.Forall₂ (Answered At ctx (y ++ [.reply resp])) (answerable [f])
        (replies (y ++ [.reply resp])) := by
    rw [hone hf, hreplies]
    exact .cons ⟨y, h, fun e he => List.mem_append_left _ he⟩ .nil
  cases h with
  | @served op out resp asks final answers =>
    exact hlast (y := [.call op out]) (.served asks final answers) asks.not_shutdown rfl
  | @retried op op' reason resp asks retries answers =>
    exact hlast (y := [.call op (.decision .duplicateIdentity), .call op' (.decision reason)])
      (.retried asks retries answers) asks.not_shutdown rfl
  | refused refuses => exact hlast (y := []) (.refused refuses) refuses.not_shutdown rfl
  | queried type seen =>
    exact hlast (y := []) (.queried type seen) (by rw [type]; decide) rfl
  | stopped type =>
    have hnone : answerable [f] = [] := by simp [answerable, type]
    rw [hnone]
    exact .nil

/-- An exchange makes the call that the frame asks for once at most. -/
theorem Exchange.performs_le (h : Exchange At ctx f x) (type : FrameType) :
    x.countP (Event.performs type) ≤ [f].countP (·.type = type) := by
  have hasks {op : Op} (h : Asks ctx f op) : op.requestType = some f.type := by
    cases h with
    | device type | reserve type | commit type | release type | pool type | region type =>
      rw [type]
      rfl
  have hcall {op : Op} {out : Outcome} (h : op.requestType = some f.type) :
      [Event.call op out].countP (Event.performs type) = [f].countP (·.type = type) := by
    simp [Event.performs, h]
  cases h with
  | served asks final answers =>
    rw [← hcall (hasks asks)]
    exact le_refl _
  | retried asks retries answers =>
    rw [← hcall (hasks asks)]
    cases retries <;> exact le_refl _
  | refused refuses => exact Nat.zero_le _
  | queried type seen => exact Nat.zero_le _
  | stopped type => exact Nat.zero_le _

theorem Underway.performs_le (h : Underway At ctx f p x) (type : FrameType) :
    x.countP (Event.performs type) ≤ [f].countP (·.type = type) := by
  have hasks {op : Op} {out : Outcome} (h : Asks ctx f op) :
      [Event.call op out].countP (Event.performs type) ≤ [f].countP (·.type = type) := by
    cases h with
    | device type | reserve type | commit type | release type | pool type | region type =>
      simp [Event.performs, Op.requestType, type]
  cases h with
  | dispatching => exact Nat.zero_le _
  | registered asks => exact hasks asks
  | duplicatePool asks => exact hasks asks
  | duplicateRegion asks => exact hasks asks
  | reserved asks => exact hasks asks
  | replying exchange =>
    refine le_trans ?_ (exchange.performs_le type)
    rw [List.countP_append]
    exact Nat.le_add_right _ _

variable {At : List Event → StateSnapshot → Prop}

/-- The states that a request may have seen. -/
def Sometime (At : List Event → StateSnapshot → Prop) (snap : StateSnapshot) : Prop :=
  ∃ evts, At evts snap

theorem Talk.answered (h : Talk At ctx evts) :
    List.Forall₂ (Answered (Sometime At) ctx evts) (awaiting evts) (replies evts) := by
  induction h with
  | boot => exact .nil
  | @exchange evts x f talk exchange ih =>
    have hweak : Exchange (Sometime At) ctx f x := exchange.mono fun _ hsnap => ⟨_, hsnap⟩
    rw [awaiting_append talk.booted exchange.pairs.1, replies_append]
    refine List.rel_append (ih.imp ?_) (hweak.answered.imp ?_)
    · intro g resp h
      exact h.mono fun e he => List.mem_append_left _ he
    · intro g resp h
      exact h.mono fun e he => List.mem_append_right _ (List.mem_cons_of_mem _ he)

theorem Talk.performs_le (h : Talk At ctx evts) (type : FrameType) :
    evts.countP (Event.performs type) ≤ (requests evts).countP (·.type = type) := by
  induction h with
  | boot => exact Nat.zero_le _
  | @exchange evts x f talk exchange ih =>
    have hrequest : requests (.request f :: x) = [f] := congrArg (f :: ·) exchange.pairs.1
    have hx := exchange.performs_le type
    have hcons : (Event.request f :: x).countP (Event.performs type) =
        x.countP (Event.performs type) := List.countP_cons_of_neg (by simp [Event.performs])
    rw [requests_append, hrequest, List.countP_append, List.countP_append, hcons]
    omega

theorem Talk.head_request (h : Talk At ctx evts) :
    (requests evts).head? = some { type := .workerBoot, payload := ctx.workerBootId.value } := by
  induction h with
  | boot => rfl
  | exchange talk exchange ih =>
    rw [requests_append, List.head?_append_of_ne_nil _ talk.booted]
    exact ih

/-- What is known of a conversation from the replies in it. -/
theorem Stands.answered (h : Stands At ctx p evts) :
    ∃ answered pending, awaiting evts = answered ++ pending ∧
      List.Forall₂ (Answered (Sometime At) ctx evts) answered (replies evts) := by
  cases h with
  | greeting | unheard | turnedAway type => exact ⟨[], [], rfl, .nil⟩
  | between idle talk => exact ⟨_, [], (List.append_nil _).symm, talk.answered⟩
  | @within _ evts x f talk underway =>
    obtain ⟨hrequests, hreplies⟩ := underway.pairs
    refine ⟨awaiting evts, answerable [f], awaiting_append talk.booted hrequests, ?_⟩
    have hrest : replies (.request f :: x) = [] := hreplies
    rw [replies_append, hrest, List.append_nil]
    refine talk.answered.imp ?_
    intro g resp h
    exact h.mono fun e he => List.mem_append_left _ he
  | @ended _ evts fences ending talk fencing =>
    obtain ⟨hrequests, hreplies⟩ := Fences.silent fencing
    refine ⟨awaiting evts, [], ?_, ?_⟩
    · rw [List.append_nil]
      unfold awaiting
      rw [requests_append, hrequests, List.append_nil]
    · rw [replies_append, hreplies, List.append_nil]
      refine talk.answered.imp ?_
      intro g resp h
      exact h.mono fun e he => List.mem_append_left _ he

/-- No call is made for a connection that it has not asked for. -/
theorem Stands.performs_le (h : Stands At ctx p evts) (type : FrameType) :
    evts.countP (Event.performs type) ≤ (requests evts).countP (·.type = type) := by
  cases h with
  | greeting | unheard | turnedAway => exact Nat.zero_le _
  | between idle talk => exact talk.performs_le type
  | @within _ evts x f talk underway =>
    have hrequest : requests (.request f :: x) = [f] := congrArg (f :: ·) underway.pairs.1
    have hx := underway.performs_le type
    have hbefore := talk.performs_le type
    have hcons : (Event.request f :: x).countP (Event.performs type) =
        x.countP (Event.performs type) := List.countP_cons_of_neg (by simp [Event.performs])
    rw [requests_append, hrequest, List.countP_append, List.countP_append, hcons]
    omega
  | @ended _ evts fences ending talk fencing =>
    have hnone : fences.countP (Event.performs type) = 0 := by
      refine List.countP_eq_zero.mpr ?_
      intro e he
      cases fencing e he
      simp [Event.performs, Op.requestType]
    rw [requests_append, (Fences.silent fencing).1, List.append_nil, List.countP_append, hnone]
    exact talk.performs_le type

/-- Where there is a reply the connection has booted in the name of its context. -/
theorem Stands.head_request (h : Stands At ctx p evts) (hreplies : replies evts ≠ []) :
    (requests evts).head? = some { type := .workerBoot, payload := ctx.workerBootId.value } := by
  cases h with
  | greeting | unheard | turnedAway => exact absurd rfl hreplies
  | between idle talk => exact talk.head_request
  | within talk underway =>
    rw [requests_append, List.head?_append_of_ne_nil _ talk.booted]
    exact talk.head_request
  | ended ending talk fencing =>
    rw [requests_append, List.head?_append_of_ne_nil _ talk.booted]
    exact talk.head_request

end talk

end Coordinator

end CxlFabric
