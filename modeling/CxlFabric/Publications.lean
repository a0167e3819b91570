import CxlFabric.ThreadTurns
import CxlFabric.Worker

/-! # What an acknowledged publication leaves

A published pool or region is created, or, when its identity is taken, the record that is
there is revalidated in its place. Between the two calls other threads may come in. The
second call looks at the identity only, so what it acknowledges is the record it finds. -/
namespace CxlFabric
open Fabric

/-- What the payload of a frame publishes. -/
inductive Publication
  | pool (id : PoolId) (generation : PoolGeneration) (members : List PoolMember)
  | region (region : CxlRegion)
  deriving DecidableEq

/-- The publication of a frame, if there is one and its payload decodes. -/
def Frame.publication (f : Frame) (beyond : ℕ → UInt8) : Option Publication :=
  match f.type with
  | .publishPool => (Codec.decodePool beyond f.payload).toOption.map fun p => .pool p.1 p.2.1 p.2.2
  | .publishRegion => (Codec.decodeRegion beyond f.payload).toOption.map .region
  | _ => none

namespace Publication
variable (f : Fabric)

/-- The identity and the generation are there, and the pool of a region. -/
def Named : Publication → Prop
  | .pool id generation _ => id.empty = false ∧ generation.empty = false
  | .region r => r.id.empty = false ∧ r.generation.empty = false ∧ r.pool.empty = false

/-- The record of the identity is as published. -/
def StoredIn : Publication → Prop
  | .pool id generation members => ∃ p : CxlPool, f.state.pools[id]? = some p ∧
      p.generation = generation ∧ p.members = members
  | .region r => ∃ q : CxlRegion, f.state.regions[r.id]? = some q ∧
      q.generation = r.generation ∧ q.memberDevices = r.memberDevices ∧ q.pool = r.pool ∧
      q.regionCapacityBytes = r.regionCapacityBytes

/-- There is a record of the identity with another generation or other members. -/
def DiffersIn : Publication → Prop
  | .pool id generation members => ∃ p : CxlPool, f.state.pools[id]? = some p ∧
      (p.generation ≠ generation ∨ p.members ≠ members)
  | .region r => ∃ q : CxlRegion, f.state.regions[r.id]? = some q ∧
      (q.generation ≠ r.generation ∨ q.memberDevices ≠ r.memberDevices)

def PresentIn : Publication → Prop
  | .pool id _ _ => ∃ p : CxlPool, f.state.pools[id]? = some p
  | .region r => ∃ q : CxlRegion, f.state.regions[r.id]? = some q

/-- The record of the identity counts as current evidence. -/
def CurrentIn : Publication → Prop
  | .pool id _ _ => ∃ p : CxlPool, f.state.pools[id]? = some p ∧ p.evidenceCurrent = true
  | .region r => ∃ q : CxlRegion, f.state.regions[r.id]? = some q ∧ q.evidenceCurrent = true

/-- There is a record of the identity, and its state may become the one of a fresh record. -/
def RevivableIn : Publication → Prop
  | .pool id _ _ => ∃ p : CxlPool, f.state.pools[id]? = some p ∧
      p.state.validTransition .available = true
  | .region r => ∃ q : CxlRegion, f.state.regions[r.id]? = some q ∧
      q.state.validTransition (.named .online) = true

/-- The two calls of the engine, and where the thread stands between them. -/
def create (ctx : AuthorityContext) : Publication → Fabric × DecisionReason
  | .pool id generation members =>
    f.createPool (Coordinator.publishedPool id generation members) ctx
  | .region r => f.createRegion r ctx

def revalidate (ctx : AuthorityContext) : Publication → Fabric × DecisionReason
  | .pool id _ _ => f.revalidatePool id ctx
  | .region r => f.revalidateRegion r.id ctx

def taken : Publication → Phase
  | .pool id _ _ => .duplicatePool id
  | .region r => .duplicateRegion r.id

variable {f : Fabric} {pub : Publication} {ctx : AuthorityContext}

theorem named_pool_iff {id : PoolId} {generation : PoolGeneration} {members : List PoolMember} :
    Named (.pool id generation members) ↔ (id.empty || generation.empty) = false :=
  Bool.or_eq_false_iff.symm

theorem named_region_iff {r : CxlRegion} :
    Named (.region r) ↔ (r.id.empty || r.generation.empty || r.pool.empty) = false := by
  rw [Bool.or_eq_false_iff, Bool.or_eq_false_iff, and_assoc]
  exact Iff.rfl

theorem StoredIn.not_differs (h : pub.StoredIn f) : ¬pub.DiffersIn f := by
  cases pub with
  | pool id generation members =>
    obtain ⟨p, hp, hgeneration, hmembers⟩ := h
    rintro ⟨q, hq, hdiffers⟩
    cases hp.symm.trans hq
    exact hdiffers.elim (fun h => h hgeneration) fun h => h hmembers
  | region r =>
    obtain ⟨p, hp, hgeneration, hmembers, -⟩ := h
    rintro ⟨q, hq, hdiffers⟩
    cases hp.symm.trans hq
    exact hdiffers.elim (fun h => h hgeneration) fun h => h hmembers

theorem storedIn_pool_iff {id : PoolId} {generation : PoolGeneration} {members : List PoolMember}
    {p : CxlPool} (h : f.state.pools[id]? = some p) :
    StoredIn f (.pool id generation members) ↔ p.generation = generation ∧ p.members = members := by
  constructor
  · rintro ⟨q, hq, hsame⟩
    cases h.symm.trans hq
    exact hsame
  · exact fun hsame => ⟨p, h, hsame⟩

theorem storedIn_region_iff {r q : CxlRegion} (h : f.state.regions[r.id]? = some q) :
    StoredIn f (.region r) ↔ q.generation = r.generation ∧ q.memberDevices = r.memberDevices ∧
      q.pool = r.pool ∧ q.regionCapacityBytes = r.regionCapacityBytes := by
  constructor
  · rintro ⟨q', hq', hsame⟩
    cases h.symm.trans hq'
    exact hsame
  · exact fun hsame => ⟨q, h, hsame⟩

theorem DiffersIn.present (h : pub.DiffersIn f) : pub.PresentIn f := by
  cases pub with
  | pool id generation members => exact h.imp fun _ hp => hp.1
  | region r => exact h.imp fun _ hp => hp.1

theorem RevivableIn.present (h : pub.RevivableIn f) : pub.PresentIn f := by
  cases pub with
  | pool id generation members => exact h.imp fun _ hp => hp.1
  | region r => exact h.imp fun _ hp => hp.1

/-- What the first call decides when the epoch is the one of the engine. -/
structure Created (f : Fabric) (pub : Publication) (out : Fabric × DecisionReason) : Prop where
  named : out.2 = .duplicateIdentity → pub.Named
  taken : pub.Named → pub.PresentIn f → out.2 = .duplicateIdentity
  decided : (out.2 ≠ .ok ∧ out.1 = f) ∨ (out.2 = .ok ∧ pub.StoredIn out.1 ∧ ¬pub.PresentIn f)

theorem contains_of_present {κ α : Type} [Ord κ] [Std.TransOrd κ] {m : Map κ α} {k : κ} {a : α}
    (h : m[k]? = some a) : m.contains k = true := by
  rw [Std.ExtTreeMap.contains_eq_isSome_getElem?, h]
  rfl

theorem created_pool {id : PoolId} {generation : PoolGeneration} {members : List PoolMember}
    (hepoch : f.staleEpoch ctx = false) :
    Created f (.pool id generation members) (create f ctx (.pool id generation members)) := by
  refine ⟨?_, ?_, ?_⟩
  · intro hdup
    by_contra hnamed
    rw [named_pool_iff, Bool.not_eq_false] at hnamed
    simp [create, createPool, hepoch, Coordinator.publishedPool, hnamed] at hdup
  · rintro hnamed ⟨p, hp⟩
    rw [named_pool_iff] at hnamed
    simp [create, createPool, hepoch, Coordinator.publishedPool, hnamed, contains_of_present hp]
  · have heffect := f.createPool_effect (Coordinator.publishedPool id generation members) ctx
    simp only [create]
    generalize f.createPool (Coordinator.publishedPool id generation members) ctx = out at heffect
    obtain ⟨f', reason⟩ := out
    cases heffect with
    | refused fallible failed => exact .inl ⟨by simpa using failed, rfl⟩
    | createPool epoch named fresh admitted =>
      refine .inr ⟨rfl, ?_, ?_⟩
      · have hnew : (f.setPool id { recomputePool (Coordinator.publishedPool id generation members)
            with state := .available, evidenceCurrent := true }).recomputeLedger.state.pools[id]? =
            some { recomputePool (Coordinator.publishedPool id generation members) with
              state := .available, evidenceCurrent := true } := by
          rw [recomputeLedger_state_pools, setPool_state_pools, getElem?_insert_eq, if_pos rfl]
        exact (storedIn_pool_iff hnew).mpr ⟨rfl, rfl⟩
      · rintro ⟨p, hp⟩
        cases fresh.symm.trans hp

theorem created_region {r : CxlRegion} (hepoch : f.staleEpoch ctx = false) :
    Created f (.region r) (create f ctx (.region r)) := by
  refine ⟨?_, ?_, ?_⟩
  · intro hdup
    by_contra hnamed
    rw [named_region_iff, Bool.not_eq_false] at hnamed
    simp [create, createRegion, hepoch, hnamed] at hdup
  · rintro hnamed ⟨q, hq⟩
    rw [named_region_iff] at hnamed
    simp [create, createRegion, hepoch, hnamed, contains_of_present hq]
  · have heffect := f.createRegion_effect r ctx
    simp only [create]
    generalize f.createRegion r ctx = out at heffect
    obtain ⟨f', reason⟩ := out
    cases heffect with
    | refused fallible failed => exact .inl ⟨by simpa using failed, rfl⟩
    | createRegion epoch named fresh owner members =>
      refine .inr ⟨rfl, ?_, ?_⟩
      · have hnew : (f.setRegion r.id r).state.regions[r.id]? = some r := by
          rw [setRegion_state_regions, getElem?_insert_eq, if_pos rfl]
        exact (storedIn_region_iff hnew).mpr ⟨rfl, rfl, rfl, rfl⟩
      · rintro ⟨q, hq⟩
        cases fresh.symm.trans hq

theorem created (hepoch : f.staleEpoch ctx = false) : Created f pub (pub.create f ctx) := by
  cases pub with
  | pool id generation members => exact created_pool hepoch
  | region r => exact created_region hepoch

/-- What the second call decides. -/
structure Revalidated (f : Fabric) (pub : Publication) (out : Fabric × DecisionReason) : Prop where
  refused : ¬pub.RevivableIn f → out.2 ≠ .ok ∧ out.1 = f
  revived : pub.RevivableIn f → out.2 = .ok ∧ (pub.StoredIn out.1 ↔ pub.StoredIn f)

theorem revalidated_pool {id : PoolId} {generation : PoolGeneration} {members : List PoolMember}
    (hepoch : f.staleEpoch ctx = false) :
    Revalidated f (.pool id generation members)
      (revalidate f ctx (.pool id generation members)) := by
  refine ⟨?_, ?_⟩
  · intro hno
    have heffect := f.revalidatePool_effect id ctx
    simp only [revalidate]
    generalize f.revalidatePool id ctx = out at heffect
    obtain ⟨f', reason⟩ := out
    cases heffect with
    | refused fallible failed => exact ⟨by simpa using failed, rfl⟩
    | revalidatePool epoch present valid => exact absurd ⟨_, present, valid⟩ hno
  · rintro ⟨p, hp, hvalid⟩
    have hout : f.revalidatePool id ctx = ((f.setPool id (recomputePool { p with
        state := .available, evidenceCurrent := true
        healthSummary := .named .healthy })).recomputeLedger, .ok) := by
      simp [revalidatePool, hepoch, hp, hvalid]
    have hnew : (f.revalidatePool id ctx).1.state.pools[id]? = some (recomputePool { p with
        state := .available, evidenceCurrent := true, healthSummary := .named .healthy }) := by
      rw [hout, recomputeLedger_state_pools, setPool_state_pools, getElem?_insert_eq, if_pos rfl]
    refine ⟨by rw [revalidate, hout], ?_⟩
    exact (storedIn_pool_iff hnew).trans (storedIn_pool_iff hp).symm

theorem revalidated_region {r : CxlRegion} (hepoch : f.staleEpoch ctx = false) :
    Revalidated f (.region r) (revalidate f ctx (.region r)) := by
  refine ⟨?_, ?_⟩
  · intro hno
    have heffect := f.revalidateRegion_effect r.id ctx
    simp only [revalidate]
    generalize f.revalidateRegion r.id ctx = out at heffect
    obtain ⟨f', reason⟩ := out
    cases heffect with
    | refused fallible failed => exact ⟨by simpa using failed, rfl⟩
    | revalidateRegion epoch present valid => exact absurd ⟨_, present, valid⟩ hno
  · rintro ⟨q, hq, hvalid⟩
    have hout : f.revalidateRegion r.id ctx = (f.setRegion r.id { q with
        state := .named .online, evidenceCurrent := true, health := .named .healthy }, .ok) := by
      simp [revalidateRegion, markRegion, hepoch, hq, hvalid]
    have hnew : (f.revalidateRegion r.id ctx).1.state.regions[r.id]? = some { q with
        state := .named .online, evidenceCurrent := true, health := .named .healthy } := by
      rw [hout, setRegion_state_regions, getElem?_insert_eq, if_pos rfl]
    refine ⟨by rw [revalidate, hout], ?_⟩
    exact (storedIn_region_iff hnew).trans (storedIn_region_iff hq).symm

theorem revalidated (hepoch : f.staleEpoch ctx = false) :
    Revalidated f pub (pub.revalidate f ctx) := by
  cases pub with
  | pool id generation members => exact revalidated_pool hepoch
  | region r => exact revalidated_region hepoch

end Publication

namespace Coordinator
variable {s s' : Coordinator} {c : ConnId} {f : Frame} {pub : Publication}

/-- The next step of the thread sends the frame. -/
def Replies (s : Coordinator) (c : ConnId) (resp : Frame) : Prop :=
  ∃ type, s.phaseOf c = some (.replying type resp)

/-- The thread of `c` answers a publication with `resp`. The engine is `t` before the call
that decides and `t'` after it: the first call, or the second one, with the steps of other
threads in between. -/
inductive Answers (s : Coordinator) (c : ConnId) (pub : Publication) (resp : Frame) :
    Fabric → Fabric → Prop
  | created {s' : Coordinator} {f : Frame} {beyond : ℕ → UInt8} {r : Report}
      (here : s.phaseOf c = some (.dispatching f)) (decodes : f.publication beyond = some pub)
      (step : s.exec (.advance c beyond) = some (s', r)) (replies : s'.Replies c resp) :
      Answers s c pub resp s.fabric s'.fabric
  | revalidated {s₁ s₂ s₃ : Coordinator} {f : Frame} {beyond beyond' : ℕ → UInt8} {r r' : Report}
      {tr : List (Act × Report)} (here : s.phaseOf c = some (.dispatching f))
      (decodes : f.publication beyond = some pub)
      (step : s.exec (.advance c beyond) = some (s₁, r)) (others : Run exec s₁ tr s₂)
      (foreign : ∀ e ∈ tr, e.1.conn ≠ some c)
      (step' : s₂.exec (.advance c beyond') = some (s₃, r')) (replies : s₃.Replies c resp) :
      Answers s c pub resp s₂.fabric s₃.fabric

/-- An acknowledgement leaves the published record behind; a record with another generation
or other members is neither acknowledged nor made current. -/
def Faithful (pub : Publication) (resp : Frame) (t t' : Fabric) : Prop :=
  (resp = ackFrame .ok → pub.StoredIn t') ∧
  (pub.DiffersIn t → resp ≠ ackFrame .ok ∧ (pub.CurrentIn t' → pub.CurrentIn t))

/-- The thread replies with what it has in hand. -/
theorem Replies.sent {resp : Frame} {b : ℕ → UInt8} {r : Report} (h : s.Replies c resp)
    (hstep : s.exec (.advance c b) = some (s', r)) : r = .sent resp := by
  obtain ⟨type, hphase⟩ := h
  obtain ⟨w, here, phase⟩ := Option.map_eq_some_iff.mp hphase
  simp only [exec, advance, here, phase] at hstep
  cases hstep
  rfl

theorem dispatch_publication {w : WorkerState} {b : ℕ → UInt8} {r : Report}
    (hpub : f.publication b = some pub) (h : s.dispatch c w f b = some (s', r)) :
    s'.fabric = (pub.create s.fabric (s.context w)).1 ∧ s'.phaseOf c =
      some (if (pub.create s.fabric (s.context w)).2 = .duplicateIdentity then pub.taken
        else .replying f.type (ackFrame (pub.create s.fabric (s.context w)).2)) := by
  unfold Frame.publication at hpub
  split at hpub
  · next htype =>
    rcases hdecode : Codec.decodePool b f.payload with err | p
    · rw [hdecode] at hpub
      cases hpub
    · rw [hdecode] at hpub
      cases hpub
      simp only [dispatch, htype, hdecode] at h
      cases h
      refine ⟨rfl, ?_⟩
      rw [phaseOf_setWorker, if_pos rfl, htype]
      rfl
  · next htype =>
    rcases hdecode : Codec.decodeRegion b f.payload with err | region
    · rw [hdecode] at hpub
      cases hpub
    · rw [hdecode] at hpub
      cases hpub
      simp only [dispatch, htype, hdecode] at h
      cases h
      refine ⟨rfl, ?_⟩
      rw [phaseOf_setWorker, if_pos rfl, htype]
      rfl
  · cases hpub

/-- The second call, from wherever the other threads have left the engine. -/
theorem advance_taken {b : ℕ → UInt8} {r : Report} (hphase : s.phaseOf c = some pub.taken)
    (h : s.exec (.advance c b) = some (s', r)) : ∃ w : WorkerState,
      s'.fabric = (pub.revalidate s.fabric (s.context w)).1 ∧
      s'.Replies c (ackFrame (pub.revalidate s.fabric (s.context w)).2) := by
  obtain ⟨w, here, phase⟩ := Option.map_eq_some_iff.mp hphase
  refine ⟨w, ?_⟩
  cases pub with
  | pool id generation members =>
    simp only [Publication.taken] at phase
    simp only [exec, advance, here, phase] at h
    cases h
    refine ⟨rfl, .publishPool, ?_⟩
    rw [phaseOf_setWorker, if_pos rfl]
    rfl
  | region region =>
    simp only [Publication.taken] at phase
    simp only [exec, advance, here, phase] at h
    cases h
    refine ⟨rfl, .publishRegion, ?_⟩
    rw [phaseOf_setWorker, if_pos rfl]
    rfl

theorem staleEpoch_context (s : Coordinator) (w : WorkerState) :
    s.fabric.staleEpoch (s.context w) = false := by simp [staleEpoch, context]

/-- Other threads leave the thread where it stands. -/
theorem phaseOf_foreign {tr : List (Act × Report)} (h : Run exec s tr s')
    (hforeign : ∀ e ∈ tr, e.1.conn ≠ some c) : s'.phaseOf c = s.phaseOf c :=
  h.invariant (I := fun t => t.phaseOf c = s.phaseOf c) (A := fun e => e.1.conn ≠ some c)
    (fun _ _ _ _ hne hsame hexec => ((exec_effect hexec).phaseOf_other hne).trans hsame)
    hforeign rfl

/-- The condition on the engine before the call that decides: a record of the identity that
could be revalidated is as published, or the publication is refused for its names. -/
def Covered (pub : Publication) (t : Fabric) : Prop :=
  pub.Named → pub.RevivableIn t → pub.StoredIn t

theorem Replies.unique {resp resp' : Frame} (h : s.Replies c resp) (h' : s.Replies c resp') :
    resp = resp' := by
  obtain ⟨type, hphase⟩ := h
  obtain ⟨type', hphase'⟩ := h'
  rw [hphase] at hphase'
  cases hphase'
  rfl

/-- After the reply the thread is done with the frame. -/
theorem Replies.done {resp resp' : Frame} {b : ℕ → UInt8} {r : Report} (h : s.Replies c resp)
    (hstep : s.exec (.advance c b) = some (s', r)) : ¬s'.Replies c resp' := by
  obtain ⟨type, hphase⟩ := h
  obtain ⟨w, here, phase⟩ := Option.map_eq_some_iff.mp hphase
  simp only [exec, advance, here, phase] at hstep
  cases hstep
  rintro ⟨type', hnext⟩
  rw [phaseOf_setWorker, if_pos rfl] at hnext
  simp only [finish, Option.some.injEq] at hnext
  split at hnext <;> cases hnext

/-- The first call: the thread has its answer, or the identity is taken. -/
theorem first_call {b : ℕ → UInt8} {r : Report} (here : s.phaseOf c = some (.dispatching f))
    (decodes : f.publication b = some pub) (step : s.exec (.advance c b) = some (s', r)) :
    ∃ out, Publication.Created s.fabric pub out ∧ s'.fabric = out.1 ∧
      ((out.2 = .duplicateIdentity ∧ s'.phaseOf c = some pub.taken) ∨
        (out.2 ≠ .duplicateIdentity ∧ s'.Replies c (ackFrame out.2))) := by
  obtain ⟨w, hw, phase⟩ := Option.map_eq_some_iff.mp here
  simp only [exec, advance, hw, phase] at step
  obtain ⟨hfabric, hphase⟩ := dispatch_publication decodes step
  refine ⟨_, Publication.created (staleEpoch_context s w), hfabric, ?_⟩
  split at hphase
  · next hdup => exact .inl ⟨hdup, hphase⟩
  · next hdup => exact .inr ⟨hdup, f.type, hphase⟩

/-- The first call decides: it stores what is published, or changes nothing. -/
theorem created_faithful {t : Fabric} {out : Fabric × DecisionReason}
    (h : Publication.Created t pub out) (hdup : out.2 ≠ .duplicateIdentity) :
    Faithful pub (ackFrame out.2) t out.1 ∧ Covered pub t := by
  refine ⟨?_, fun hnamed hrevivable => absurd (h.taken hnamed hrevivable.present) hdup⟩
  rcases h.decided with ⟨hno, hsame⟩ | ⟨hok, hstored, habsent⟩
  · have hrefused : ackFrame out.2 ≠ ackFrame .ok := fun hack => hno (ackFrame_ok hack)
    rw [hsame]
    exact ⟨fun hack => absurd hack hrefused, fun _ => ⟨hrefused, fun hcurrent => hcurrent⟩⟩
  · exact ⟨fun _ => hstored, fun hdiffers => absurd hdiffers.present habsent⟩

/-- The second call decides: it acknowledges the record that is there. -/
theorem revalidated_faithful_iff {t : Fabric} {out : Fabric × DecisionReason}
    (h : Publication.Revalidated t pub out) (hnamed : pub.Named) :
    Faithful pub (ackFrame out.2) t out.1 ↔ Covered pub t := by
  by_cases hrevivable : pub.RevivableIn t
  · obtain ⟨hok, hstored⟩ := h.revived hrevivable
    rw [hok]
    constructor
    · intro hfaithful _ _
      exact hstored.mp (hfaithful.1 rfl)
    · intro hcovered
      have hbefore := hcovered hnamed hrevivable
      exact ⟨fun _ => hstored.mpr hbefore, fun hdiffers => absurd hdiffers hbefore.not_differs⟩
  · obtain ⟨hno, hsame⟩ := h.refused hrevivable
    have hrefused : ackFrame out.2 ≠ ackFrame .ok := fun hack => hno (ackFrame_ok hack)
    rw [hsame]
    refine iff_of_true ?_ fun _ hrev => absurd hrev hrevivable
    exact ⟨fun hack => absurd hack hrefused, fun _ => ⟨hrefused, fun hcurrent => hcurrent⟩⟩

/-- What is acknowledged is what is stored, exactly if the call that decides finds no other
record that it could revalidate. -/
theorem publication_faithful_iff {resp : Frame} {t t' : Fabric}
    (h : Answers s c pub resp t t') : Faithful pub resp t t' ↔ Covered pub t := by
  cases h with
  | created here decodes step replies =>
    obtain ⟨out, hcreated, hfabric, ⟨-, hphase⟩ | ⟨hdup, hreplies⟩⟩ := first_call here decodes step
    · obtain ⟨type, hreplying⟩ := replies
      rw [hphase] at hreplying
      cases pub <;> cases hreplying
    · rw [replies.unique hreplies, hfabric]
      obtain ⟨hfaithful, hcovered⟩ := created_faithful hcreated hdup
      exact iff_of_true hfaithful hcovered
  | revalidated here decodes step others foreign step' replies =>
    obtain ⟨out, hcreated, -, ⟨hdup, hphase⟩ | ⟨-, type, hphase⟩⟩ := first_call here decodes step
    · rw [← phaseOf_foreign others foreign] at hphase
      obtain ⟨w, hfabric, hreplies⟩ := advance_taken hphase step'
      rw [replies.unique hreplies, hfabric]
      exact revalidated_faithful_iff (Publication.revalidated (staleEpoch_context _ w))
        (hcreated.named hdup)
    · rw [← phaseOf_foreign others foreign] at hphase
      exact absurd replies (Replies.done ⟨type, hphase⟩ step')

def poolMember : PoolMember where
  device := ⟨str "dev-1"⟩
  deviceGeneration := ⟨1⟩
  nominalBytes := Synthetic.sampleBytes
  online := true
  healthOk := true

def published (n : PoolGeneration) : Publication := .pool ⟨str "p-1"⟩ n [poolMember]

def poolFrame (n : PoolGeneration) : Frame :=
  { type := .publishPool, payload := Codec.encodePool ⟨str "p-1"⟩ n [poolMember] }

/-- A worker has published its pool, and publishes it once more under generation `n`. -/
def publishedTwice (n : PoolGeneration) : Option (List (Act × Report) × Coordinator) :=
  execAll exec (start ⟨1⟩ none false) (Worker.connect 0 (str "w-1") ++
    Worker.serve 0 (Worker.deviceFrame (str "w-1")) ++ Worker.serve 0 (poolFrame ⟨1⟩) ++
    [.receive 0 (some (poolFrame n))])

theorem sameTwice_isSome : (publishedTwice ⟨1⟩).isSome = true := by decide +kernel

theorem otherTwice_isSome : (publishedTwice ⟨7⟩).isSome = true := by decide +kernel

/-- The thread makes both calls at once. -/
def secondCall (s : Coordinator) : Option (Coordinator × Coordinator) :=
  (s.exec (.advance 0 fun _ => 0)).bind fun e =>
    (e.1.exec (.advance 0 fun _ => 0)).map fun e' => (e.1, e'.1)

theorem answers_of_secondCall {n : PoolGeneration} {x : Coordinator × Coordinator}
    (here : s.phaseOf 0 = some (.dispatching (poolFrame n)))
    (decodes : (poolFrame n).publication (fun _ => 0) = some (published n))
    (h : s.secondCall = some x)
    (hack : x.2.phaseOf 0 = some (.replying .publishPool (ackFrame .ok))) :
    Answers s 0 (published n) (ackFrame .ok) x.1.fabric x.2.fabric := by
  obtain ⟨e, he, hmap⟩ := Option.bind_eq_some_iff.mp h
  obtain ⟨e', he', rfl⟩ := Option.map_eq_some_iff.mp hmap
  exact .revalidated here decodes he (.nil _) (by simp) he' ⟨_, hack⟩

/-- The same pool is published again, and is acknowledged. -/
theorem publication_faithful_iff_sameTwice :
    ∃ tr s t t', Run exec (start ⟨1⟩ none false) tr s ∧
      Answers s 0 (published ⟨1⟩) (ackFrame .ok) t t' ∧ (published ⟨1⟩).StoredIn t ∧
      Faithful (published ⟨1⟩) (ackFrame .ok) t t' := by
  have hrun := Run.of_execAll (Option.some_get sameTwice_isSome).symm
  have here : ((publishedTwice ⟨1⟩).get sameTwice_isSome).2.phaseOf 0 =
      some (.dispatching (poolFrame ⟨1⟩)) := by decide +kernel
  have hcalls : ∃ x ∈ ((publishedTwice ⟨1⟩).get sameTwice_isSome).2.secondCall,
      x.2.phaseOf 0 = some (.replying .publishPool (ackFrame .ok)) ∧
      ∃ p ∈ x.1.fabric.state.pools[(⟨str "p-1"⟩ : PoolId)]?,
        p.generation = ⟨1⟩ ∧ p.members = [poolMember] := by decide +kernel
  obtain ⟨x, hx, hack, hstored⟩ := hcalls
  have hanswers := answers_of_secondCall here (by decide +kernel) hx hack
  exact ⟨_, _, _, _, hrun, hanswers, hstored,
    (publication_faithful_iff hanswers).mpr fun _ _ => hstored⟩

/-- The pool is published under another generation, and is acknowledged as well. -/
theorem other_generation_is_acknowledged :
    ¬∀ tr s c pub resp t t', Run exec (start ⟨1⟩ none false) tr s →
      Answers s c pub resp t t' → Faithful pub resp t t' := by
  intro hall
  have hrun := Run.of_execAll (Option.some_get otherTwice_isSome).symm
  have here : ((publishedTwice ⟨7⟩).get otherTwice_isSome).2.phaseOf 0 =
      some (.dispatching (poolFrame ⟨7⟩)) := by decide +kernel
  have hcalls : ∃ x ∈ ((publishedTwice ⟨7⟩).get otherTwice_isSome).2.secondCall,
      x.2.phaseOf 0 = some (.replying .publishPool (ackFrame .ok)) ∧
      ∃ p ∈ x.1.fabric.state.pools[(⟨str "p-1"⟩ : PoolId)]?, p.generation = ⟨1⟩ := by
    decide +kernel
  obtain ⟨x, hx, hack, p, hp, hgeneration⟩ := hcalls
  have hanswers := answers_of_secondCall here (by decide +kernel) hx hack
  have hdiffers : (published ⟨7⟩).DiffersIn x.1.fabric := by
    refine ⟨p, hp, .inl ?_⟩
    rw [hgeneration]
    decide
  exact ((hall _ _ _ _ _ _ _ hrun hanswers).2 hdiffers).1 rfl

end Coordinator
end CxlFabric
