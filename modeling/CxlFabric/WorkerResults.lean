import CxlFabric.AnsweredRequests
import CxlFabric.Wires

/-! # What workers print

Every line that a worker prints tells of a call of the engine that was made for it, however
the processes are scheduled and whatever other clients do. -/
namespace CxlFabric
namespace Deployment

open Coordinator Worker

/-- What a printed line says of the calls that were made for the connection, with the state
in a reply to a query. -/
inductive Tells (Seen : StateSnapshot → Prop) (evts : List Event) (o : Options) : Line → Prop
  | reserved {ctx : AuthorityContext} {out : ReserveOutcome} (boot : ctx.workerBootId = ⟨o.boot⟩)
      (call : .call (.reserve { bytes := o.reserveBytes, consumer := ⟨o.consumer⟩ } ctx)
        (.reservation out) ∈ evts) :
      Tells Seen evts o
        (.reserved out.reservation.id.value out.reason.toUInt32 (if out.ok then 1 else 0))
  | commitResult {ctx : AuthorityContext} {out : ReserveOutcome}
      (boot : ctx.workerBootId = ⟨o.boot⟩)
      (call : .call (.commit ⟨o.commitRid⟩ ctx) (.reservation out) ∈ evts) :
      Tells Seen evts o
        (.commitResult out.reservation.id.value out.reason.toUInt32 (if out.ok then 1 else 0))
  | releaseResult {ctx : AuthorityContext} {out : ReserveOutcome}
      (boot : ctx.workerBootId = ⟨o.boot⟩)
      (call : .call (.release ⟨o.releaseRid⟩ ctx) (.reservation out) ∈ evts) :
      Tells Seen evts o
        (.releaseResult out.reservation.id.value out.reason.toUInt32 (if out.ok then 1 else 0))
  | state {snap : StateSnapshot} (seen : Seen snap) : Tells Seen evts o (.state (stateText snap))

section results
variable {At : StateSnapshot → Prop} {ctx : AuthorityContext} {evts : List Event} {o : Options}
  {t : Task} {f resp : Frame} {beyond : ℕ → UInt8} {ln : Line} {ended hung : Bool}
  {begun : List Task} {l : Link}

/-- The last call before a reply decides it, or there is none. -/
theorem Answered.cases (h : Answered At ctx evts f resp) :
    (∃ op out, Asks ctx f op ∧ Conveys f.type out resp ∧ .call op out ∈ evts) ∨
    (f.type ∈ [FrameType.publishPool, .publishRegion]) ∨
    resp.type = .errorReport ∨
    f.type = .queryState ∧ ∃ snap, At snap ∧
      resp = { type := .queryStateResult, payload := stateText snap } := by
  obtain ⟨x, hx, hmem⟩ := h
  generalize hy : x ++ [.reply resp] = y at hx
  have hlast {z : List Event} {resp' : Frame} (h : x ++ [.reply resp] = z ++ [.reply resp']) :
      x = z ∧ resp = resp' := by
    obtain ⟨rfl, heq⟩ := List.append_inj' h rfl
    cases heq
    exact ⟨rfl, rfl⟩
  cases hx with
  | @served op out resp' asks final answers =>
    obtain ⟨rfl, rfl⟩ := hlast (z := [.call op out]) hy
    exact .inl ⟨op, out, asks, answers, hmem _ List.mem_cons_self⟩
  | retried asks retries answers =>
    right
    left
    cases retries with
    | pool pool => simp [asks.publishesPool]
    | region region => simp [asks.publishesRegion]
  | @refused msg refuses =>
    obtain ⟨-, rfl⟩ := hlast (z := []) hy
    exact .inr (.inr (.inl rfl))
  | @queried snap type seen =>
    obtain ⟨-, rfl⟩ := hlast (z := []) hy
    exact .inr (.inr (.inr ⟨type, snap, seen, rfl⟩))
  | stopped type => exact absurd hy (List.append_ne_nil_of_right_ne_nil _ (List.cons_ne_nil _ _))

theorem decoded_reserve {b : ℕ → UInt8} {bytes : UInt64} {consumer : Str}
    (hwire : (o.frame .reserve).payload.length ≤ maxPayloadBytes)
    (h : Codec.decodeReserve b (o.frame .reserve).payload = .ok (bytes, consumer)) :
    bytes = o.reserveBytes ∧ consumer = o.consumer := by
  have hconsumer : o.consumer.length ≤ maxString := by
    have hle : o.consumer.length ≤ (o.frame .reserve).payload.length := by
      simp only [Options.frame, Worker.reserveFrame, Codec.encodeReserve, putStr,
        List.length_append]
      omega
    exact hle.trans hwire
  have hread : Codec.decodeReserve b (o.frame .reserve).payload =
      .ok (o.reserveBytes, o.consumer) := (Codec.readsAs_reserve hconsumer b).1
  cases h.symm.trans hread
  exact ⟨rfl, rfl⟩

/-- A line is printed for an answer that came of a call. -/
theorem tells_of_answered (h : Answered At ctx evts (o.frame t) resp)
    (hboot : ctx.workerBootId = ⟨o.boot⟩) (hsent : (o.frame t).payload.length ≤ maxPayloadBytes)
    (hresp : resp.payload.length ≤ maxPayloadBytes) (hline : line beyond t resp = some ln) :
    Tells At evts o ln := by
  have hresult {type : FrameType} {out : ReserveOutcome} {g : Str × UInt32 × UInt8 → Line}
      (hresp : (Coordinator.reserveFrame type out).payload.length ≤ maxPayloadBytes)
      (h : (readResult beyond (Coordinator.reserveFrame type out).payload).map g = some ln) :
      ln = g (out.reservation.id.value, out.reason.toUInt32, if out.ok then 1 else 0) := by
    obtain ⟨r, hr, rfl⟩ := Option.map_eq_some_iff.mp h
    rw [readResult_eq_some hresp hr]
  have herror (htype : resp.type = .errorReport) : line beyond t resp = none := by
    cases t <;> simp [line, htype]
  rcases Answered.cases h with
    ⟨op, out, asks, conveys, hmem⟩ | hpub | hrefused | ⟨hquery, snap, hsnap, rfl⟩
  · cases t with
    | boot => cases hline
    | device => cases hline
    | pool => cases hline
    | region => cases hline
    | reserve =>
      have hconveys : Conveys .reserve out resp := conveys
      cases asks with
      | reserve type decoded =>
        obtain ⟨rfl, rfl⟩ := decoded_reserve hsent decoded
        cases hconveys with
        | decided reason publishes => simp at publishes
        | settled o settles => simp at settles
        | reserved out =>
          rw [hresult hresp hline]
          exact .reserved hboot hmem
      | device type | commit type | release type | pool type | region type => cases type
    | commit =>
      have hconveys : Conveys .commit out resp := conveys
      cases asks with
      | commit type =>
        cases hconveys with
        | decided reason publishes => simp at publishes
        | settled out settles =>
          rw [hresult hresp hline]
          exact .commitResult hboot hmem
      | device type | reserve type | release type | pool type | region type => cases type
    | release =>
      have hconveys : Conveys .release out resp := conveys
      cases asks with
      | release type =>
        cases hconveys with
        | decided reason publishes => simp at publishes
        | settled out settles =>
          rw [hresult hresp hline]
          exact .releaseResult hboot hmem
      | device type | reserve type | commit type | pool type | region type => cases type
    | query =>
      cases asks with
      | device type | reserve type | commit type | release type | pool type | region type =>
        cases type
  · cases t <;> first | cases hline | simp [Options.frame, Worker.reserveFrame, Worker.commitFrame,
      Worker.releaseFrame] at hpub
  · rw [herror hrefused] at hline
    cases hline
  · cases t with
    | query =>
      cases hline
      exact .state hsnap
    | _ => cases hquery

theorem getElem?_of_isPrefix {α : Type} {xs ys : List α} (h : xs <+: ys) {i : ℕ} {x : α}
    (hx : xs[i]? = some x) : ys[i]? = some x := by
  obtain ⟨zs, rfl⟩ := h
  rw [List.getElem?_append_left (List.getElem?_eq_some_iff.mp hx).1]
  exact hx

/-- What has been received is the frame of the task at that place. -/
theorem Wired.requested (h : Wired evts ended hung begun l) {i : ℕ} {f : Frame}
    (hf : (requests evts)[i]? = some f) :
    ∃ t, begun[i]? = some t ∧ f = l.process.options.frame t ∧
      f.payload.length ≤ maxPayloadBytes := by
  have hsent := getElem?_of_isPrefix h.received (i := i) (x := some f) (by simp [hf])
  unfold sentFor at hsent
  rw [List.getElem?_map] at hsent
  obtain ⟨t, ht, hwire⟩ := Option.map_eq_some_iff.mp hsent
  obtain ⟨rfl, hle⟩ := Frame.wire_eq_some.mp hwire
  exact ⟨t, ht, rfl, hle⟩

/-- No request of a worker goes without an answer. -/
theorem Wired.awaiting_eq (h : Wired evts ended hung begun l) :
    awaiting evts = (requests evts).tail := by
  refine List.filter_eq_self.mpr ?_
  intro f hf
  obtain ⟨i, hi⟩ := List.getElem?_of_mem (List.mem_of_mem_tail hf)
  obtain ⟨t, -, rfl, -⟩ := h.requested hi
  simpa using frame_not_shutdown l.process.options t

/-- What a receive of the worker returns is the reply to the frame of its task. -/
theorem Wired.heard_reply (h : Wired evts ended hung begun l)
    (hmem : (t, some resp) ∈ l.process.heard) :
    ∃ i : ℕ, begun.tail[i]? = some t ∧ (replies evts)[i]? = some resp ∧
      resp.payload.length ≤ maxPayloadBytes := by
  obtain ⟨i, hi⟩ := List.getElem?_of_mem hmem
  have htask : begun.tail[i]? = some t := by
    rw [h.awaited]
    refine getElem?_of_isPrefix (List.prefix_append _ _) ?_
    rw [List.getElem?_map, hi]
    rfl
  obtain ⟨got, lost, hheard, hfront, -, -⟩ := h.told
  have hresult : (got ++ List.replicate lost none)[i]? = some (some resp) := by
    rw [← hheard, List.getElem?_map, hi]
    rfl
  have hgot : got[i]? = some (some resp) := by
    rw [List.getElem?_append] at hresult
    split at hresult
    · exact hresult
    · rw [List.getElem?_replicate] at hresult
      split at hresult <;> cases hresult
  have hreply := getElem?_of_isPrefix ((List.prefix_append _ _).trans hfront) hgot
  rw [List.getElem?_map] at hreply
  obtain ⟨resp', hresp', hwire⟩ := Option.map_eq_some_iff.mp hreply
  obtain ⟨rfl, hle⟩ := Frame.wire_eq_some.mp hwire
  exact ⟨i, htask, hresp', hle⟩

/-- What a worker has heard are answers to its frames, each to the one it was meant for. -/
theorem Wired.heard_answered {At : List Event → StateSnapshot → Prop} {p : Phase}
    (h : Wired evts ended hung begun l) (hstands : Stands At ctx p evts)
    (hmem : (t, some resp) ∈ l.process.heard) :
    Answered (Sometime At) ctx evts (l.process.options.frame t) resp ∧
      (l.process.options.frame t).payload.length ≤ maxPayloadBytes ∧
      resp.payload.length ≤ maxPayloadBytes ∧ replies evts ≠ [] := by
  obtain ⟨i, htask, hreply, hle⟩ := h.heard_reply hmem
  obtain ⟨answered, pending, hawaiting, hpairs⟩ := hstands.answered
  obtain ⟨hi, hget⟩ := List.getElem?_eq_some_iff.mp hreply
  have hi' : i < answered.length := hpairs.length_eq ▸ hi
  have hpair := (List.forall₂_iff_get.mp hpairs).2 i hi' hi
  have hrequest : (requests evts)[i + 1]? = some answered[i] := by
    rw [← List.getElem?_tail, ← h.awaiting_eq, hawaiting, List.getElem?_append_left hi']
    exact List.getElem?_eq_getElem hi'
  obtain ⟨t', ht', hframe, hsent⟩ := h.requested hrequest
  have hsame : t' = t := by
    rw [List.getElem?_tail] at htask
    exact Option.some.inj (ht'.symm.trans htask)
  subst hsame
  rw [← hframe]
  refine ⟨?_, hsent, hle, List.ne_nil_of_mem (List.mem_of_getElem? hreply)⟩
  have hresp : (replies evts).get ⟨i, hi⟩ = resp := hget
  rw [hresp] at hpair
  exact hpair

/-- The frames of a worker arrive in the order of its script. -/
theorem Wired.requests_isPrefix (h : Wired evts ended hung begun l) :
    requests evts <+: l.process.options.tasks.map l.process.options.frame := by
  rw [List.prefix_iff_getElem?]
  intro i hi
  obtain ⟨t, ht, hframe, -⟩ := h.requested (List.getElem?_eq_getElem hi)
  rw [List.getElem?_map, ← h.script,
    List.getElem?_append_left (List.getElem?_eq_some_iff.mp ht).1, ht]
  exact congrArg some hframe.symm

/-- Each of them is of a type of its own. -/
theorem requests_once (hfront : requests evts <+: o.tasks.map o.frame) (type : FrameType) :
    (requests evts).countP (·.type = type) ≤ 1 := by
  refine (hfront.sublist.countP_le).trans ?_
  have hnodup : (o.tasks.map fun t => (o.frame t).type).Nodup :=
    (tasks_nodup o).map (task_type_injective o)
  have hcount := List.nodup_iff_count_le_one.mp hnodup type
  rw [List.count, List.countP_map] at hcount
  rw [List.countP_map]
  refine le_trans (List.countP_mono_left ?_) hcount
  intro t _ ht
  simpa using ht

end results

section main
variable {d : Deployment} {tr : List (Move × Option (Act × Report))} {c : ConnId} {l : Link}

/-- A printed line came of the answer to a frame of the worker. -/
theorem tells_of_run {epoch : CoordinatorEpoch} {recovered : Option PersistedState}
    {persist : Bool} (hrun : Run exec (start epoch recovered persist) tr d)
    (hl : d.links[c]? = some l) {ln : Line} (hln : ln ∈ l.process.printed) :
    Tells (Sometime (Moment (Coordinator.start epoch recovered persist) c (acts tr)))
      (conversation c (acts tr)) l.process.options ln := by
  obtain ⟨begun, hwired⟩ := wires_of_run hrun c l hl
  have hconsistent := consistent_of_run (run_coordinator hrun)
  obtain ⟨t, resp, beyond, hmem, hline⟩ := hwired.printed ln hln
  cases hw : d.coordinator.connections[c]? with
  | none =>
    rw [hconsistent.unknown c hw] at hwired
    obtain ⟨i, -, hreply, -⟩ := hwired.heard_reply hmem
    cases hreply
  | some w =>
    have hstands := hconsistent.known c w hw
    obtain ⟨hanswered, hsent, hle, hreplies⟩ := hwired.heard_answered hstands hmem
    have hboot : (d.coordinator.context w).workerBootId = ⟨l.process.options.boot⟩ := by
      have hhead := hstands.head_request hreplies
      rw [List.head?_eq_getElem?] at hhead
      obtain ⟨t', -, hframe, -⟩ := hwired.requested hhead
      have htype := congrArg Frame.type hframe
      cases t' with
      | boot => exact congrArg (fun f => (⟨f.payload⟩ : WorkerBootId)) hframe
      | _ => cases htype
    exact tells_of_answered hanswered hboot hsent hle hline

/-- However the processes are scheduled, a worker has its frames received in the order of its
script, no operation that it asks for is performed twice, and every line that it prints is
the outcome of the call that was made for it. -/
theorem workers_print_results {epoch : CoordinatorEpoch} {recovered : Option PersistedState}
    {persist : Bool} (hrun : Run exec (start epoch recovered persist) tr d)
    (hl : d.links[c]? = some l) :
    requests (conversation c (acts tr)) <+: l.process.options.tasks.map l.process.options.frame ∧
    (∀ type, (conversation c (acts tr)).countP (Event.performs type) ≤ 1) ∧
    ∀ ln ∈ l.process.printed,
      Tells (Sometime (Moment (Coordinator.start epoch recovered persist) c (acts tr)))
        (conversation c (acts tr)) l.process.options ln := by
  obtain ⟨begun, hwired⟩ := wires_of_run hrun c l hl
  have hconsistent := consistent_of_run (run_coordinator hrun)
  have hfront := hwired.requests_isPrefix
  refine ⟨hfront, fun type => ?_, fun ln hln => tells_of_run hrun hl hln⟩
  cases hw : d.coordinator.connections[c]? with
  | none =>
    rw [hconsistent.unknown c hw]
    exact Nat.zero_le _
  | some w =>
    exact ((hconsistent.known c w hw).performs_le type).trans (requests_once hfront type)

/-- A worker publishes, reserves and hears that it has the reservation. -/
def reservingRun (o : Options) : Option (List (Move × Option (Act × Report)) × Deployment) :=
  execAll exec (start ⟨1⟩ none false)
    ([.connect 0 (some o), .send 0 true] ++ (Worker.connect 0 o.boot).map .serve ++
      o.tasks.tail.flatMap fun t =>
        .send 0 true :: (Worker.serve 0 (o.frame t)).map .serve ++ [.recv 0 fun _ => 0])

theorem workers_print_results_reservingRun :
    ∃ tr d l, Run exec (start ⟨1⟩ none false) tr d ∧ d.links[0]? = some l ∧
      l.process.printed = [.reserved (str "res-1") 0 1] ∧
      ∀ ln ∈ l.process.printed, Tells (Sometime (Moment (.start ⟨1⟩ none false) 0 (acts tr)))
        (conversation 0 (acts tr)) l.process.options ln := by
  have hprinted : (reservingRun { reserveBytes := 4096 }).any (fun q => q.2.links[0]?.any fun l =>
      l.process.printed = [.reserved (str "res-1") 0 1]) = true := by decide +kernel
  obtain ⟨⟨tr, d⟩, hsteps, hd⟩ := (Option.any_eq_true _ _).mp hprinted
  obtain ⟨l, hl, hln⟩ := (Option.any_eq_true _ _).mp hd
  have hrun := Run.of_execAll hsteps
  exact ⟨tr, d, l, hrun, hl, of_decide_eq_true hln, (workers_print_results hrun hl).2.2⟩

end main

end Deployment

end CxlFabric
