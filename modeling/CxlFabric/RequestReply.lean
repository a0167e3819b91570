import CxlFabric.Conversations
import CxlFabric.QueryReplies

/-! # Requests and replies

A client tells its replies apart by their place: the first answers its first request after
the boot frame, and so on. A shutdown is not answered. -/
namespace CxlFabric

def Event.requested : Event → Option Frame
  | .request f => some f
  | _ => none

def Event.replied : Event → Option Frame
  | .reply resp => some resp
  | _ => none

/-- The thread has a request to answer. -/
def Phase.answering : Phase → Bool
  | .dispatching _ | .registered _ _ | .duplicatePool _ | .duplicateRegion _ | .reserved _
  | .replying _ _ => true
  | _ => false

namespace Coordinator

def requests (evts : List Event) : List Frame := evts.filterMap Event.requested

def replies (evts : List Event) : List Frame := evts.filterMap Event.replied

/-- The frames that are to be answered. -/
def answerable (fs : List Frame) : List Frame := fs.filter fun f => f.type ≠ .shutdown

/-- The requests after the boot frame that are to be answered. -/
def awaiting (evts : List Event) : List Frame := answerable (requests evts).tail

/-- The type of the answer to a frame that is not refused. -/
def replyType : FrameType → FrameType
  | .publishDevice | .publishPool | .publishRegion => .ack
  | .reserve => .reserveResult
  | .commit | .release => .commitResult
  | .queryState => .queryStateResult
  | _ => .errorReport

/-- The answer is of the type of its request, or the error that says why there is none. -/
def Suits (f resp : Frame) : Prop :=
  resp.type = replyType f.type ∨ ∃ msg, Refuses f msg ∧ resp = errorFrame msg

section talk
variable {At : StateSnapshot → Prop} {ctx : AuthorityContext} {f : Frame} {p : Phase}
  {x evts : List Event}

theorem requests_append (evts evts' : List Event) :
    requests (evts ++ evts') = requests evts ++ requests evts' := List.filterMap_append

theorem replies_append (evts evts' : List Event) :
    replies (evts ++ evts') = replies evts ++ replies evts' := List.filterMap_append

theorem Conveys.type_eq {type : FrameType} {out : Outcome} {resp : Frame}
    (h : Conveys type out resp) : resp.type = replyType type := by
  cases h with
  | decided reason publishes =>
    simp only [List.mem_cons, List.not_mem_nil, or_false] at publishes
    rcases publishes with rfl | rfl | rfl <;> rfl
  | reserved o => rfl
  | settled o settles =>
    simp only [List.mem_cons, List.not_mem_nil, or_false] at settles
    rcases settles with rfl | rfl <;> rfl

theorem Asks.not_shutdown {op : Op} (h : Asks ctx f op) : f.type ≠ .shutdown := by
  cases h with
  | device type | reserve type | commit type | release type | pool type | region type =>
    rw [type]
    decide

theorem Refuses.not_shutdown {msg : String} (h : Refuses f msg) : f.type ≠ .shutdown := by
  cases h with
  | device type | reserve type | pool type | region type =>
    rw [type]
    decide
  | unsupported type =>
    intro hshutdown
    rw [hshutdown] at type
    cases type

/-- An exchange is the request of one answer, or the one request without any. -/
theorem Exchange.pairs (h : Exchange At ctx f x) :
    requests x = [] ∧ List.Forall₂ Suits (answerable [f]) (replies x) := by
  have hone (hf : f.type ≠ .shutdown) : answerable [f] = [f] := by simp [answerable, hf]
  cases h with
  | served asks final answers =>
    rw [hone asks.not_shutdown]
    exact ⟨rfl, .cons (.inl answers.type_eq) .nil⟩
  | retried asks retries answers =>
    rw [hone asks.not_shutdown]
    exact ⟨rfl, .cons (.inl answers.type_eq) .nil⟩
  | refused refuses =>
    rw [hone refuses.not_shutdown]
    exact ⟨rfl, .cons (.inr ⟨_, refuses, rfl⟩) .nil⟩
  | queried type seen =>
    rw [hone (by rw [type]; decide)]
    refine ⟨rfl, .cons (.inl ?_) .nil⟩
    rw [type]
    rfl
  | stopped type =>
    refine ⟨rfl, ?_⟩
    have hnone : answerable [f] = [] := by simp [answerable, type]
    rw [hnone]
    exact .nil

theorem Underway.answering (h : Underway At ctx f p x) : p.answering = true := by
  cases h <;> rfl

/-- A request that is being served has had no answer yet. -/
theorem Underway.pairs (h : Underway At ctx f p x) : requests x = [] ∧ replies x = [] := by
  cases h with
  | dispatching | registered | duplicatePool | duplicateRegion | reserved => exact ⟨rfl, rfl⟩
  | @replying resp _ exchange =>
    obtain ⟨hrequests, hpairs⟩ := exchange.pairs
    rw [requests_append] at hrequests
    rw [replies_append] at hpairs
    refine ⟨(List.append_eq_nil_iff.mp hrequests).1, ?_⟩
    have hlength := hpairs.length_eq
    rw [List.length_append] at hlength
    have hone : (answerable [f]).length ≤ 1 := List.length_filter_le _ _
    have hreply : (replies [.reply resp]).length = 1 := rfl
    exact List.eq_nil_of_length_eq_zero (by omega)

/-- A request after the boot frame, with what follows it and asks for nothing. -/
theorem awaiting_append (hboot : requests evts ≠ []) (hx : requests x = []) :
    awaiting (evts ++ .request f :: x) = awaiting evts ++ answerable [f] := by
  have hrequest : requests (.request f :: x) = [f] := congrArg (f :: ·) hx
  unfold awaiting answerable
  rw [requests_append, List.tail_append_of_ne_nil hboot, List.filter_append, hrequest]

variable {At : List Event → StateSnapshot → Prop}

theorem Talk.booted (h : Talk At ctx evts) : requests evts ≠ [] := by
  induction h with
  | boot => exact List.cons_ne_nil _ _
  | exchange talk exchange ih =>
    rw [requests_append]
    exact List.append_ne_nil_of_left_ne_nil ih _

/-- Between two exchanges every request has its answer. -/
theorem Talk.pairs (h : Talk At ctx evts) : List.Forall₂ Suits (awaiting evts) (replies evts) := by
  induction h with
  | boot => exact .nil
  | @exchange evts x f talk exchange ih =>
    obtain ⟨hrequests, hpairs⟩ := exchange.pairs
    rw [awaiting_append talk.booted hrequests, replies_append]
    exact List.rel_append ih hpairs

theorem Fences.silent {fences : List Event} (h : ∀ e ∈ fences, Fences e) :
    requests fences = [] ∧ replies fences = [] := by
  refine ⟨List.filterMap_eq_nil_iff.mpr ?_, List.filterMap_eq_nil_iff.mpr ?_⟩
  · intro e he
    cases h e he
    rfl
  · intro e he
    cases h e he
    rfl

/-- The replies answer the requests in their order; one request at most has none yet, and
none when the thread has nothing to answer. -/
theorem Stands.pairs (h : Stands At ctx p evts) :
    ∃ answered pending, awaiting evts = answered ++ pending ∧
      List.Forall₂ Suits answered (replies evts) ∧ pending.length ≤ 1 ∧
      (p.answering = false → pending = []) := by
  cases h with
  | greeting | unheard | turnedAway type =>
    exact ⟨[], [], rfl, .nil, Nat.zero_le 1, fun _ => rfl⟩
  | between idle talk =>
    exact ⟨_, [], (List.append_nil _).symm, talk.pairs, Nat.zero_le 1, fun _ => rfl⟩
  | @within _ evts x f talk underway =>
    obtain ⟨hrequests, hreplies⟩ := underway.pairs
    refine ⟨awaiting evts, answerable [f], awaiting_append talk.booted hrequests, ?_,
      List.length_filter_le _ _, ?_⟩
    · have hrest : replies (.request f :: x) = [] := hreplies
      rw [replies_append, hrest, List.append_nil]
      exact talk.pairs
    · intro hfree
      rw [underway.answering] at hfree
      cases hfree
  | @ended _ evts fences ending talk fencing =>
    obtain ⟨hrequests, hreplies⟩ := Fences.silent fencing
    refine ⟨awaiting evts, [], ?_, ?_, Nat.zero_le 1, fun _ => rfl⟩
    · rw [List.append_nil]
      unfold awaiting
      rw [requests_append, hrequests, List.append_nil]
    · rw [replies_append, hreplies, List.append_nil]
      exact talk.pairs

end talk

variable {s : Coordinator} {tr : List (Act × Report)} {c : ConnId} {w : WorkerState}

/-- In every interleaving each client gets one reply to each of its requests, in their
order, and none to anything else. -/
theorem replies_pair {epoch : CoordinatorEpoch} {recovered : Option PersistedState}
    {persist : Bool} (hrun : Run exec (start epoch recovered persist) tr s)
    (hw : s.connections[c]? = some w) :
    ∃ answered pending, awaiting (conversation c tr) = answered ++ pending ∧
      List.Forall₂ Suits answered (replies (conversation c tr)) ∧ pending.length ≤ 1 ∧
      (w.phase.answering = false → pending = []) :=
  ((consistent_of_run hrun).known c w hw).pairs

theorem replies_pair_queryingRun :
    ∃ tr s w answered pending, Run exec (start ⟨1⟩ none false) tr s ∧
      s.connections[0]? = some w ∧ awaiting (conversation 0 tr) = answered ++ pending ∧
      List.Forall₂ Suits answered (replies (conversation 0 tr)) ∧ pending.length ≤ 1 := by
  have hrun := Run.of_execAll (Option.some_get queryingRun_isSome).symm
  have hready : ∃ w ∈ (queryingRun.get queryingRun_isSome).2.connections[0]?,
      w.phase = .dispatching queryFrame := by decide +kernel
  obtain ⟨w, hw, -⟩ := hready
  obtain ⟨answered, pending, hawaiting, hpairs, hpending, -⟩ := replies_pair hrun hw
  exact ⟨_, _, w, answered, pending, hrun, hw, hawaiting, hpairs, hpending⟩

end Coordinator

end CxlFabric
