import CxlFabric.CodecRoundTrip
import CxlFabric.CoordinatorAuthority
import CxlFabric.Frames
import CxlFabric.Worker

/-! # The reply to a query

The text of the state grows with the devices and the reservations. A frame has room for a
bounded payload only; of a longer one nothing but a header is sent. -/
namespace CxlFabric

/-- The bytes that `send_frame` hands to the socket. -/
def Frame.sentBytes (f : Frame) : List UInt8 := encode f.toWire

/-- The bytes of a reply decode to exactly one frame of the type with the payload. -/
structure Arrives (bytes : List UInt8) (type : FrameType) (payload : List UInt8) : Prop where
  status : (decodeFrame bytes).status = .ok
  type : (decodeFrame bytes).frame.type = type.code
  payload : (decodeFrame bytes).frame.payload = payload

/-- A frame arrives exactly when its payload is within the bound. -/
theorem arrives_sentBytes_iff (f : Frame) :
    Arrives f.sentBytes f.type f.payload ↔ f.payload.length ≤ maxPayloadBytes := by
  constructor
  · intro h
    have hframe : (decodeFrame f.sentBytes).frame = f.toWire := by
      have htype := h.type
      have hpayload := h.payload
      cases hdecoded : (decodeFrame f.sentBytes).frame
      rw [hdecoded] at htype hpayload
      cases htype
      cases hpayload
      rfl
    exact (eq_encode_of_ok h.status hframe).1.payload
  · intro hlen
    have hsendable : f.toWire.Sendable := ⟨⟨f.type, rfl⟩, hlen⟩
    have hdecode := hsendable.decode_append []
    rw [List.append_nil, if_pos rfl] at hdecode
    have hdecoded : decodeFrame f.sentBytes = _ := hdecode
    refine ⟨?_, ?_, ?_⟩
    · rw [hdecoded]
    · rw [hdecoded]
      rfl
    · rw [hdecoded]
      rfl

/-- The frame that an action brings in. -/
def Act.received : Act → Option Frame
  | .receive _ result => result
  | _ => none

namespace StateSnapshot

/-- The size of the line of a device, apart from its name and its state: `device `,
` state=`, ` evidence_current=`, the flag and the line end. -/
def deviceLine : ℕ := 34

/-- The same for a reservation: `reservation `, ` state=` and the line end. -/
def reservationLine : ℕ := 20

/-- The size of the three lines at the top, apart from their numbers. -/
def topLines : ℕ := 30

/-- The size of the state as a text, from the names and the numbers it shows. -/
def textSize (snap : StateSnapshot) : ℕ :=
  topLines + (str (decimal snap.coordinatorEpoch.value)).length +
  (str (decimal (.ofNat snap.devices.size))).length +
  (str (decimal (.ofNat snap.reservations.size))).length +
  (snap.devices.toList.map fun e =>
    deviceLine + e.1.value.length + (str e.2.state.toText).length).sum +
  (snap.reservations.toList.map fun e =>
    reservationLine + e.1.value.length + (str e.2.state.toText).length).sum

end StateSnapshot

namespace Coordinator

theorem length_flatMap_of {α : Type} {f : α → Str} {n : α → ℕ} (h : ∀ a, (f a).length = n a)
    (xs : List α) : (xs.flatMap f).length = (xs.map n).sum := by
  rw [List.length_flatMap]
  simp only [h]

theorem length_deviceLine (e : DeviceId × CxlDevice) : (str "device " ++ e.1.value ++
    str " state=" ++ str e.2.state.toText ++ str " evidence_current=" ++
    str (if e.2.evidenceCurrent then "1" else "0") ++ str "\n").length =
      StateSnapshot.deviceLine + e.1.value.length + (str e.2.state.toText).length := by
  have hdevice : (str "device ").length = 7 := rfl
  have hstate : (str " state=").length = 7 := rfl
  have hevidence : (str " evidence_current=").length = 18 := rfl
  have hflag : (str (if e.2.evidenceCurrent then "1" else "0")).length = 1 := by
    cases e.2.evidenceCurrent <;> rfl
  have hend : (str "\n").length = 1 := rfl
  simp only [List.length_append, hdevice, hstate, hevidence, hflag, hend,
    StateSnapshot.deviceLine]
  omega

theorem length_reservationLine (e : ReservationId × Reservation) : (str "reservation " ++
    e.1.value ++ str " state=" ++ str e.2.state.toText ++ str "\n").length =
      StateSnapshot.reservationLine + e.1.value.length + (str e.2.state.toText).length := by
  have hreservation : (str "reservation ").length = 12 := rfl
  have hstate : (str " state=").length = 7 := rfl
  have hend : (str "\n").length = 1 := rfl
  simp only [List.length_append, hreservation, hstate, hend, StateSnapshot.reservationLine]
  omega

theorem length_stateText (snap : StateSnapshot) : (stateText snap).length = snap.textSize := by
  have hepoch : (str "epoch=").length = 6 := rfl
  have hdevices : (str "devices=").length = 8 := rfl
  have hreservations : (str "reservations=").length = 13 := rfl
  have hend : (str "\n").length = 1 := rfl
  unfold stateText
  rw [List.length_append, List.length_append, length_flatMap_of length_deviceLine,
    length_flatMap_of length_reservationLine]
  simp only [List.length_append, hepoch, hdevices, hreservations, hend, StateSnapshot.textSize,
    StateSnapshot.topLines]
  omega

/-- A query that is being dispatched is answered: the thread prepares its reply, and
whatever the other threads do then, its next step sends a frame that arrives with the text
of the state the query was dispatched in. -/
def QueryAnswered (s : Coordinator) (c : ConnId) : Prop :=
  ∀ b, ∃ t, s.exec (.advance c b) = some (t, .silent) ∧
    ∀ tr u, Run exec t tr u → (∀ e ∈ tr, e.1.conn ≠ some c) →
      ∀ b', ∃ u' resp, u.exec (.advance c b') = some (u', .sent resp) ∧
        Arrives resp.sentBytes .queryStateResult (stateText s.fabric.state)

/-- The phase of a connection is its own. -/
theorem phase_of_run {s t : Coordinator} {c : ConnId} {p : Phase} {tr : List (Act × Report)}
    (h : Run exec s tr t) (hothers : ∀ e ∈ tr, e.1.conn ≠ some c)
    (hs : ∃ w, s.connections[c]? = some w ∧ w.phase = p) :
    ∃ w, t.connections[c]? = some w ∧ w.phase = p := by
  refine h.invariant (A := fun e => e.1.conn ≠ some c)
    (I := fun s => ∃ w, s.connections[c]? = some w ∧ w.phase = p) ?_ hothers hs
  rintro s a r s' hc ⟨w, hw, hphase⟩ hexec
  obtain ⟨dead, hw'⟩ := (exec_effect hexec).other hw hc
  exact ⟨_, hw', hphase⟩

theorem exec_replying {s : Coordinator} {c : ConnId} {w : WorkerState} {type : FrameType}
    {resp : Frame} (hw : s.connections[c]? = some w) (hphase : w.phase = .replying type resp)
    (b : ℕ → UInt8) :
    s.exec (.advance c b) = some (s.setWorker c { w with phase := finish type }, .sent resp) := by
  simp only [exec, advance, hw, hphase]

/-- A query is answered exactly when the names and the numbers of the state fit a frame. -/
theorem query_answered_iff {s : Coordinator} {c : ConnId} {w : WorkerState} {f : Frame}
    (hw : s.connections[c]? = some w) (hphase : w.phase = .dispatching f)
    (htype : f.type = .queryState) :
    s.QueryAnswered c ↔ s.fabric.state.textSize ≤ maxPayloadBytes := by
  have hstep (b : ℕ → UInt8) : s.exec (.advance c b) = some (s.setWorker c { w with
      phase := .replying f.type
        { type := .queryStateResult, payload := stateText s.fabric.state } }, .silent) := by
    rw [exec_dispatch hw hphase]
    simp only [dispatch, htype, goto]
  have hreply := arrives_sentBytes_iff
    { type := .queryStateResult, payload := stateText s.fabric.state }
  rw [length_stateText] at hreply
  rw [← hreply]
  constructor
  · intro h
    obtain ⟨t, ht, hanswered⟩ := h fun _ => 0
    cases (hstep _).symm.trans ht
    obtain ⟨u, resp, hu, harrives⟩ := hanswered [] _ (.nil _) (by simp) fun _ => 0
    rw [exec_replying (setWorker_self s c _) rfl] at hu
    cases hu
    exact harrives
  · intro harrives b
    refine ⟨_, hstep b, ?_⟩
    intro tr u hrun hothers b'
    obtain ⟨v, hv, hvphase⟩ := phase_of_run hrun hothers ⟨_, setWorker_self s c _, rfl⟩
    exact ⟨_, _, exec_replying hv hvphase b', harrives⟩

def queryFrame : Frame := { type := .queryState }

/-- A worker has published its topology and asks for the state. -/
def queryingRun : Option (List (Act × Report) × Coordinator) :=
  execAll exec (start ⟨1⟩ none false)
    (Worker.publish 0 (str "w-1") ++ [.receive 0 (some queryFrame)])

theorem queryingRun_isSome : queryingRun.isSome = true := by decide +kernel

theorem query_answered_iff_queryingRun :
    ∃ tr s w, Run exec (start ⟨1⟩ none false) tr s ∧ s.connections[0]? = some w ∧
      w.phase = .dispatching queryFrame ∧ s.QueryAnswered 0 := by
  have hrun := Run.of_execAll (Option.some_get queryingRun_isSome).symm
  have hready : ∃ w ∈ (queryingRun.get queryingRun_isSome).2.connections[0]?,
      w.phase = .dispatching queryFrame := by decide +kernel
  have hsize : (queryingRun.get queryingRun_isSome).2.fabric.state.textSize ≤ maxPayloadBytes := by
    decide +kernel
  obtain ⟨w, hw, hphase⟩ := hready
  exact ⟨_, _, w, hrun, hw, hphase, (query_answered_iff hw hphase rfl).mpr hsize⟩

/-- A frame that comes from the wire is within the bound of the payload. -/
def Receivable (a : Act) : Prop := ∀ f ∈ a.received, f.payload.length ≤ maxPayloadBytes

instance (a : Act) : Decidable (Receivable a) :=
  inferInstanceAs (Decidable (∀ f ∈ a.received, f.payload.length ≤ maxPayloadBytes))

theorem receivable_receive {c : ConnId} {f : Frame} (h : f.payload.length ≤ maxPayloadBytes) :
    Receivable (.receive c (some f)) := by
  intro f' hf
  cases hf
  exact h

theorem receivable_advance {c : ConnId} {b : ℕ → UInt8} : Receivable (.advance c b) := by
  intro f hf
  cases hf

section serving
variable {s : Coordinator} {c : ConnId} {w : WorkerState}

theorem exec_receiving (hw : s.connections[c]? = some w) (hphase : w.phase = .receiving)
    (f : Frame) : s.exec (.receive c (some f)) =
      some (s.setWorker c { w with phase := .dispatching f }, .silent) := by
  simp only [exec, receive, hw, hphase, goto]

theorem exec_looping (hw : s.connections[c]? = some w) (hphase : w.phase = .looping)
    (hrunning : s.running = true) (b : ℕ → UInt8) : s.exec (.advance c b) =
      some (s.setWorker c { w with phase := .receiving }, .silent) := by
  simp only [exec, advance, hw, hphase, goto, hrunning, if_true]

/-- Without a path to persist to, the end of `dispatch` does nothing. -/
theorem exec_exporting (hw : s.connections[c]? = some w) (hphase : w.phase = .exporting)
    (hpersist : s.persist = false) (b : ℕ → UInt8) : s.exec (.advance c b) =
      some (s.setWorker c { w with phase := .looping }, .silent) := by
  simp only [exec, advance, hw, hphase, goto, hpersist, Bool.not_false, if_true]

theorem exec_publishing {f : Frame} {d : CxlDevice} {b : ℕ → UInt8}
    (hw : s.connections[c]? = some w) (hphase : w.phase = .dispatching f)
    (htype : f.type = .publishDevice) (hdecode : Codec.decodeDevice b f.payload = .ok d) :
    s.exec (.advance c b) =
      some ({ s with fabric := (s.fabric.registerDevice d (s.context w)).1 }.setWorker c { w with
          phase := .registered d.id (s.fabric.registerDevice d (s.context w)).2 },
        .performed (.registerDevice d (s.context w))
          (.decision (s.fabric.registerDevice d (s.context w)).2)) := by
  rw [exec_dispatch hw hphase]
  simp only [dispatch, htype, hdecode, perform]

theorem exec_registered {id : DeviceId} {reason : DecisionReason}
    (hw : s.connections[c]? = some w) (hphase : w.phase = .registered id reason) (b : ℕ → UInt8) :
    s.exec (.advance c b) = some (s.setWorker c { w with
      devices := if reason = .ok then w.devices ++ [id] else w.devices
      phase := .exporting }, .sent (ackFrame reason)) := by
  simp only [exec, advance, hw, hphase]
  rfl

/-- A device frame is served, and the thread waits for the next one. -/
theorem serve_device {f : Frame} {d : CxlDevice} (hw : s.connections[c]? = some w)
    (hphase : w.phase = .receiving) (hpersist : s.persist = false) (hrunning : s.running = true)
    (htype : f.type = .publishDevice)
    (hdecode : Codec.decodeDevice (fun _ => 0) f.payload = .ok d)
    (hlen : f.payload.length ≤ maxPayloadBytes) :
    ∃ tr t w', Run exec s tr t ∧ (∀ e ∈ tr, Receivable e.1) ∧ t.connections[c]? = some w' ∧
      w'.phase = .receiving ∧ t.fabric = (s.fabric.registerDevice d (s.context w)).1 := by
  refine ⟨_, _, _, .cons (exec_receiving hw hphase f)
    (.cons (exec_publishing (setWorker_self _ c _) rfl htype hdecode)
    (.cons (exec_registered (setWorker_self _ c _) rfl fun _ => 0)
    (.cons (exec_exporting (setWorker_self _ c _) rfl (by exact hpersist) fun _ => 0)
    (.single (exec_looping (setWorker_self _ c _) rfl (by exact hrunning) fun _ => 0))))),
    ?_, setWorker_self _ c _, rfl, rfl⟩
  simp only [List.forall_mem_cons, receivable_advance, receivable_receive hlen, true_and,
    List.not_mem_nil, false_imp_iff, implies_true]

end serving

/-- An online device under a name of its own. -/
def namedDevice (id : Str) : CxlDevice where
  id := ⟨id⟩
  generation := ⟨1⟩
  state := .named .online
  evidenceCurrent := true

theorem length_encodeDevice_named (id : Str) :
    (Codec.encodeDevice (namedDevice id)).length = 60 + id.length := by
  simp only [Codec.encodeDevice, namedDevice, List.length_append, length_putU64, length_putU32,
    Persistence.length_putStr, Persistence.length_putBool, List.length_nil]
  omega

/-- A device with a long name is in the text of the state as a whole. -/
theorem textSize_of_device {snap : StateSnapshot} {id : DeviceId} {d : CxlDevice}
    (h : snap.devices[id]? = some d) :
    StateSnapshot.topLines + StateSnapshot.deviceLine + id.value.length ≤ snap.textSize := by
  have hmem := Std.ExtTreeMap.mem_toList_iff_getElem?_eq_some.mpr h
  have hline : StateSnapshot.deviceLine + id.value.length + (str d.state.toText).length ≤
      (snap.devices.toList.map fun e => StateSnapshot.deviceLine + e.1.value.length +
        (str e.2.state.toText).length).sum :=
    List.le_sum_of_mem (List.mem_map.mpr ⟨(id, d), hmem, rfl⟩)
  unfold StateSnapshot.textSize
  omega

/-- The first device of a coordinator is stored under its name. -/
theorem registerDevice_named {id : Str} (hid : id ≠ []) {f : Fabric} {ctx : AuthorityContext}
    (hepoch : f.Authorized ctx) (habsent : f.state.devices[(⟨id⟩ : DeviceId)]? = none) :
    (f.registerDevice (Codec.receivedDevice (namedDevice id)) ctx).1.state.devices[
      (⟨id⟩ : DeviceId)]? = some (Codec.receivedDevice (namedDevice id)) := by
  have hnonempty : ((⟨id⟩ : DeviceId).empty || (⟨1⟩ : DeviceGeneration).empty ||
      (⟨id ++ str "-boot"⟩ : DeviceBootId).empty) = false := by
    cases id with
    | nil => exact absurd rfl hid
    | cons x id => rfl
  have hstored : f.registerDevice (Codec.receivedDevice (namedDevice id)) ctx =
      (f.setDevice ⟨id⟩ (Codec.receivedDevice (namedDevice id)), .ok) := by
    unfold Fabric.registerDevice
    rw [Fabric.staleEpoch_eq_false.mpr hepoch]
    simp only [Codec.receivedDevice, namedDevice, hnonempty, habsent, Bool.false_eq_true, if_false]
  rw [hstored]
  exact Std.ExtTreeMap.getElem?_insert_self

/-- A worker has connected. -/
def connectedRun : Option (List (Act × Report) × Coordinator) :=
  execAll exec (start ⟨1⟩ none false) (Worker.connect 0 (str "w-1"))

theorem connectedRun_isSome : connectedRun.isSome = true := by decide +kernel

/-- A device whose name leaves no room for the rest of the text: with 65473 bytes the payload
of the publication is within the bound, the text is not. -/
theorem long_name_is_not_answered {id : Str} (hlength : id.length = 65473) :
    ∃ tr s w, Run exec (start ⟨1⟩ none false) tr s ∧ (∀ e ∈ tr, Receivable e.1) ∧
      s.connections[0]? = some w ∧ w.phase = .dispatching queryFrame ∧ ¬s.QueryAnswered 0 := by
  have hconnected := Run.of_execAll (Option.some_get connectedRun_isSome).symm
  have hframes : ∀ e ∈ (connectedRun.get connectedRun_isSome).1, Receivable e.1 := by
    decide +kernel
  have hwaiting : ∃ w ∈ (connectedRun.get connectedRun_isSome).2.connections[0]?,
      w.phase = .receiving := by decide +kernel
  obtain ⟨w, hw, hphase⟩ := hwaiting
  have hfabric : (connectedRun.get connectedRun_isSome).2.fabric = .new ⟨1⟩ ⟨1⟩ := rfl
  have hdecode : Codec.decodeDevice (fun _ => 0) (Codec.encodeDevice (namedDevice id)) =
      .ok (Codec.receivedDevice (namedDevice id)) := by
    apply Codec.decodeDevice_encodeDevice
    · change id.length ≤ maxString
      rw [hlength]
      decide
    · exact Nat.zero_le _
  obtain ⟨tr, s, w', hrun, hreceivable, hw', hphase', hs⟩ :=
    serve_device (f := { type := .publishDevice, payload := Codec.encodeDevice (namedDevice id) })
      hw hphase rfl rfl rfl hdecode (by rw [length_encodeDevice_named, hlength]; decide)
  have hquery := exec_receiving hw' hphase' queryFrame
  have hdevice : s.fabric.state.devices[(⟨id⟩ : DeviceId)]? =
      some (Codec.receivedDevice (namedDevice id)) := by
    rw [hs, hfabric]
    apply registerDevice_named
    · intro hnil
      rw [hnil] at hlength
      cases hlength
    · rfl
    · rfl
  refine ⟨_, _, _, (hconnected.append hrun).append (.single hquery), ?_, setWorker_self s 0 _,
    rfl, ?_⟩
  · intro e he
    rcases List.mem_append.mp he with he | he
    · rcases List.mem_append.mp he with he | he
      · exact hframes e he
      · exact hreceivable e he
    · cases List.mem_singleton.mp he
      exact receivable_receive (by decide)
  · rw [query_answered_iff (setWorker_self s 0 _) rfl rfl]
    intro hanswered
    have hbound : StateSnapshot.topLines + StateSnapshot.deviceLine + id.length ≤
        maxPayloadBytes := (textSize_of_device hdevice).trans hanswered
    rw [hlength] at hbound
    exact absurd hbound (by decide)

theorem long_state_is_not_answered :
    ¬∀ (epoch : CoordinatorEpoch) (tr : List (Act × Report)) (s : Coordinator),
      Run exec (start epoch none false) tr s → (∀ e ∈ tr, Receivable e.1) →
      ∀ c w f, s.connections[c]? = some w → w.phase = .dispatching f → f.type = .queryState →
        s.QueryAnswered c := by
  intro hall
  have hlength : (List.replicate 65473 (100 : UInt8)).length = 65473 := List.length_replicate
  obtain ⟨tr, s, w, hrun, hreceivable, hw, hphase, hunanswered⟩ :=
    long_name_is_not_answered hlength
  exact hunanswered (hall ⟨1⟩ tr s hrun hreceivable 0 w queryFrame hw hphase rfl)

end Coordinator

end CxlFabric
