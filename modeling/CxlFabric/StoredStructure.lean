import CxlFabric.PersistenceRoundTrip

/-! # The structure that a payload carries

Identities, generations and memberships are what a saved state has to bring back. Few
operations change them, and none of them is lost on the way through a payload that the
writer and the reader accept. -/
namespace CxlFabric

open Persistence

/-- The same devices, regions and pools with the same generations and members. -/
structure SameStructure (a b : PersistedState) : Prop where
  device : ∀ id : DeviceId,
    a.devices[id]?.map (·.generation) = b.devices[id]?.map (·.generation)
  region : ∀ id : RegionId, a.regions[id]?.map (fun r => (r.generation, r.memberDevices)) =
    b.regions[id]?.map (fun r => (r.generation, r.memberDevices))
  pool : ∀ id : PoolId, a.pools[id]?.map (fun p => (p.generation, p.members)) =
    b.pools[id]?.map (fun p => (p.generation, p.members))

namespace SameStructure
variable {a b c : PersistedState}

theorem refl (a : PersistedState) : SameStructure a a :=
  ⟨fun _ => rfl, fun _ => rfl, fun _ => rfl⟩

theorem trans (h : SameStructure a b) (h' : SameStructure b c) : SameStructure a c :=
  ⟨fun id => (h.device id).trans (h'.device id), fun id => (h.region id).trans (h'.region id),
    fun id => (h.pool id).trans (h'.pool id)⟩

end SameStructure

namespace Persistence
variable {st : PersistedState} {payload : List UInt8} {beyond : ℕ → UInt8}

theorem storedState_sameStructure (h : st.Keyed) : SameStructure (storedState st) st := by
  refine ⟨?_, ?_, ?_⟩
  · intro id
    rw [storedState_devices h, Option.map_map]
    rfl
  · intro id
    rw [storedState_regions h, Option.map_map]
    rfl
  · intro id
    rw [storedState_pools h, Option.map_map]
    rfl

/-- A state that is read back keys its records by their identities. -/
theorem deserializeState_keyed (h : deserializeState beyond payload = .ok st) : st.Keyed := by
  have hbody : Yields readBody PersistedState.Keyed :=
    .bind fun _ => .bind fun _ => .bind fun _ => .bind fun _ =>
      .pure ⟨collect_keyed, collect_keyed, collect_keyed⟩
  unfold deserializeState deserialize at h
  split at h
  · cases h
  dsimp only at h
  split at h
  · cases h
  split at h
  · cases h
  next read pos asked hrun =>
  split at h
  · cases h
  cases h
  exact hbody _ 0 (st, pos) (congrArg Prod.fst hrun)

/-- Within the bounds of the writer and of the reader. -/
structure Storable (st : PersistedState) : Prop where
  fits : StateFits st
  size : (writeBody st).length + 4 ≤ maxPersistPayload

/-- The payload is read back with the structure of the state. -/
def Loads (beyond : ℕ → UInt8) (payload : List UInt8) (st : PersistedState) : Prop :=
  ∃ st', deserializeState beyond payload = .ok st' ∧ SameStructure st' st

theorem Loads.congr {st' : PersistedState} (h : Loads beyond payload st)
    (hsame : SameStructure st st') : Loads beyond payload st' := by
  obtain ⟨loaded, hread, hloaded⟩ := h
  exact ⟨loaded, hread, hloaded.trans hsame⟩

/-- What is serialized within the bounds can be written and read. -/
theorem Storable.serialize (h : Storable st) (hk : st.Keyed) (beyond : ℕ → UInt8) :
    ∃ payload, serializeState st = .ok payload ∧ payload.length ≤ maxPersistPayload ∧
      Loads beyond payload st := by
  have hserialize := h.fits.serializeState
  refine ⟨_, hserialize, ?_, ?_⟩
  · rw [List.length_append, length_putU32]
    exact h.size
  · rcases deserializeState_serializeState hserialize (.inr h.fits) beyond with
      ⟨-, hread⟩ | ⟨hnot, -⟩
    · exact ⟨_, hread, storedState_sameStructure hk⟩
    · exact absurd h.fits hnot

end Persistence

/-- The operations of the control plane that bring in no record. -/
inductive Op.Tends : Op → Prop
  | reserve (req : AdmissionRequest) (ctx : AuthorityContext) : Tends (.reserve req ctx)
  | commit (id : ReservationId) (ctx : AuthorityContext) : Tends (.commit id ctx)
  | release (id : ReservationId) (ctx : AuthorityContext) : Tends (.release id ctx)
  | revalidatePool (id : PoolId) (ctx : AuthorityContext) : Tends (.revalidatePool id ctx)
  | revalidateRegion (id : RegionId) (ctx : AuthorityContext) : Tends (.revalidateRegion id ctx)
  | markDeviceRevalidation (id : DeviceId) (ctx : AuthorityContext) :
      Tends (.markDeviceRevalidation id ctx)

namespace Fabric
variable {f f' : Fabric} {op : Op} {out : Outcome}

/-- The structure of the engine is that of what it exports. -/
def KeepsStructure (f f' : Fabric) : Prop := SameStructure f.exportPersisted f'.exportPersisted

theorem Effect.keepsStructure (h : f.Effect op out f') (htends : op.Tends) :
    f.KeepsStructure f' := by
  refine ⟨?_, ?_, ?_⟩
  · intro id
    have hchange := h.device id
    change f.state.devices[id]?.map _ = f'.state.devices[id]?.map _
    generalize f.state.devices[id]? = old at hchange
    generalize f'.state.devices[id]? = new at hchange
    cases hchange with
    | registered | imported => cases htends
    | same | revalidation | online => rfl
  · intro id
    have hchange := h.region id
    change f.state.regions[id]?.map _ = f'.state.regions[id]?.map _
    generalize f.state.regions[id]? = old at hchange
    generalize f'.state.regions[id]? = new at hchange
    cases hchange with
    | created | updated | reconfigured | imported => cases htends
    | same | draining | revalidated | booked => rfl
  · intro id
    have hchange := h.pool id
    change f.state.pools[id]?.map _ = f'.state.pools[id]?.map _
    generalize f.state.pools[id]? = old at hchange
    generalize f'.state.pools[id]? = new at hchange
    cases hchange with
    | created | added | removed | imported => cases htends
    | same | draining | reconciled | revalidated | booked => rfl

theorem KeepsStructure.refl (f : Fabric) : f.KeepsStructure f := SameStructure.refl _

/-- A registration brings in a device or a generation, or it changes no structure. -/
theorem registerDevice_structure {d : CxlDevice} {ctx : AuthorityContext}
    (h : f.Effect (.registerDevice d ctx) out f') :
    f.KeepsStructure f' ∨
      (out = .decision .ok ∧ f.state.devices[d.id]?.map (·.generation) ≠ some d.generation) := by
  cases h with
  | refused => exact .inl (.refl f)
  | registerDevice epoch named old =>
    by_cases hgeneration : f.state.devices[d.id]?.map (·.generation) = some d.generation
    · refine .inl ⟨?_, fun _ => rfl, fun _ => rfl⟩
      intro id
      change f.state.devices[id]?.map _ = (f.state.devices.insert d.id d)[id]?.map _
      rw [getElem?_insert_eq]
      split
      · next hid =>
        subst hid
        exact hgeneration
      · rfl
    · exact .inr ⟨rfl, hgeneration⟩

theorem createPool_refused {pool : CxlPool} {ctx : AuthorityContext}
    (h : f.Effect (.createPool pool ctx) out f') (hout : out ≠ .decision .ok) : f' = f := by
  cases h with
  | refused => rfl
  | createPool => exact absurd rfl hout

theorem createRegion_refused {region : CxlRegion} {ctx : AuthorityContext}
    (h : f.Effect (.createRegion region ctx) out f') (hout : out ≠ .decision .ok) : f' = f := by
  cases h with
  | refused => rfl
  | createRegion => exact absurd rfl hout

theorem importPersisted_sameStructure (f : Fabric) (st : PersistedState) :
    SameStructure st (f.importPersisted st).exportPersisted := by
  refine ⟨?_, ?_, ?_⟩
  · intro id
    change _ = (f.importPersisted st).state.devices[id]?.map _
    rw [importPersisted_devices, Option.map_map]
    rfl
  · intro id
    change _ = (f.importPersisted st).state.regions[id]?.map _
    rw [importPersisted_regions, Option.map_map]
    rfl
  · intro id
    change _ = (f.importPersisted st).state.pools[id]?.map _
    rw [importPersisted_pools, Option.map_map]
    rfl

end Fabric

end CxlFabric
