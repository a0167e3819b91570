import CxlFabric.Fencing

/-! # The history of a record

Between two imports no record disappears and no generation falls. A device cannot change
its immutable facts without a new generation, so a registration that carries an older one,
or other facts at the current one, finds the record as it left it. -/
namespace CxlFabric

/-- The facts that a device keeps within a generation. -/
structure CxlDevice.SameFacts (d d' : CxlDevice) : Prop where
  vendor : d'.vendorDeviceId = d.vendorDeviceId
  bytes : d'.totalPhysicalBytes = d.totalPhysicalBytes

namespace Fabric
variable {f f' : Fabric} {op : Op} {out : Outcome}

/-- What a later record of a device has kept of an earlier one. -/
structure DeviceKept (d d' : CxlDevice) : Prop where
  generation : d.generation ≤ d'.generation
  facts : d.generation = d'.generation → d.SameFacts d'

theorem DeviceKept.refl (d : CxlDevice) : DeviceKept d d := ⟨le_refl _, fun _ => ⟨rfl, rfl⟩⟩

/-- Equal generations at both ends leave no room for another one in between. -/
theorem DeviceKept.trans {d d' d'' : CxlDevice} (h : DeviceKept d d') (h' : DeviceKept d' d'') :
    DeviceKept d d'' := by
  refine ⟨h.generation.trans h'.generation, ?_⟩
  intro heq
  have hmiddle : d.generation = d'.generation := le_antisymm h.generation (heq ▸ h'.generation)
  have hfacts := h.facts hmiddle
  have hfacts' := h'.facts (hmiddle.symm.trans heq)
  exact ⟨hfacts'.vendor.trans hfacts.vendor, hfacts'.bytes.trans hfacts.bytes⟩

theorem DeviceKept.of_supersedes {d dev : CxlDevice} (h : Supersedes d dev) : DeviceKept d dev := by
  rcases h with ⟨hgen, hvendor, hbytes⟩ | ⟨hlt, -⟩
  · exact ⟨hgen.le, fun _ => ⟨hvendor.symm, hbytes.symm⟩⟩
  · exact ⟨hlt.le, fun heq => absurd heq hlt.ne⟩

theorem Effect.device_kept (h : f.Effect op out f') (himport : ∀ st, op ≠ .importPersisted st)
    {id : DeviceId} {d : CxlDevice} (hd : f.state.devices[id]? = some d) :
    ∃ d', f'.state.devices[id]? = some d' ∧ DeviceKept d d' := by
  have hchange := h.device id
  rw [hd] at hchange
  generalize f'.state.devices[id]? = new at hchange
  cases hchange with
  | same => exact ⟨d, rfl, .refl d⟩
  | registered key supersedes => exact ⟨_, rfl, .of_supersedes (supersedes d rfl)⟩
  | revalidation valid => exact ⟨_, rfl, le_refl _, fun _ => ⟨rfl, rfl⟩⟩
  | online valid => exact ⟨_, rfl, le_refl _, fun _ => ⟨rfl, rfl⟩⟩
  | @imported st => exact absurd rfl (himport st)

/-- A registration from the past, or with other facts, is refused. -/
theorem registerDevice_refused {dev old : CxlDevice} (hold : f.state.devices[dev.id]? = some old)
    (hstale : dev.generation < old.generation ∨
      dev.generation = old.generation ∧ ¬old.SameFacts dev) (ctx : AuthorityContext) :
    (f.registerDevice dev ctx).1 = f := by
  unfold registerDevice
  split
  · rfl
  split
  · rfl
  rw [hold]
  dsimp only
  rcases hstale with hlt | ⟨heq, hfacts⟩
  · rw [if_neg hlt.ne', if_pos hlt]
  · rw [if_pos heq.symm]
    split
    · rfl
    next hvendor =>
    split
    · rfl
    next hbytes =>
    exact absurd ⟨(not_not.mp hvendor).symm, (not_not.mp hbytes).symm⟩ hfacts

variable {tr : List (Op × Outcome)}

/-- A record stays, and what each step keeps of it the run keeps. -/
theorem run_record {κ α : Type} (lookup : Fabric → κ → Option α) {R : α → α → Prop}
    (hrefl : ∀ a, R a a) (htrans : ∀ a b c, R a b → R b c → R a c)
    (hstep : ∀ (f f' : Fabric) (op : Op) (out : Outcome), f.Effect op out f' →
      (∀ st, op ≠ .importPersisted st) → ∀ k a, lookup f k = some a →
      ∃ a', lookup f' k = some a' ∧ R a a')
    (hrun : Run exec f tr f') (himport : ∀ e ∈ tr, ∀ st, e.1 ≠ .importPersisted st)
    {k : κ} {a : α} (ha : lookup f k = some a) : ∃ a', lookup f' k = some a' ∧ R a a' := by
  refine hrun.invariant (I := fun g => ∃ a', lookup g k = some a' ∧ R a a')
    (A := fun e => ∀ st, e.1 ≠ .importPersisted st) ?_ himport ⟨a, ha, hrefl a⟩
  rintro g op out g' hkeep ⟨b, hb, hab⟩ hexec
  obtain ⟨c, hc, hbc⟩ := hstep g g' op out (exec_effect hexec) hkeep k b hb
  exact ⟨c, hc, htrans a b c hab hbc⟩

/-- Records stay, generations never fall, and the facts of a device are fixed within a
generation, which no registration gets around. -/
theorem records_move_forward (hrun : Run exec f tr f')
    (himport : ∀ e ∈ tr, ∀ st, e.1 ≠ .importPersisted st) :
    (∀ (id : DeviceId) (d : CxlDevice), f.state.devices[id]? = some d →
      ∃ d', f'.state.devices[id]? = some d' ∧ d.generation ≤ d'.generation ∧
        (d.generation = d'.generation → d.SameFacts d')) ∧
    (∀ (id : RegionId) (r : CxlRegion), f.state.regions[id]? = some r →
      ∃ r', f'.state.regions[id]? = some r' ∧ r.generation ≤ r'.generation) ∧
    (∀ (id : PoolId) (p : CxlPool), f.state.pools[id]? = some p →
      ∃ p', f'.state.pools[id]? = some p' ∧ p.generation ≤ p'.generation) ∧
    ∀ (dev old : CxlDevice) (ctx : AuthorityContext), f'.state.devices[dev.id]? = some old →
      (dev.generation < old.generation ∨
        dev.generation = old.generation ∧ ¬old.SameFacts dev) →
      (f'.registerDevice dev ctx).1 = f' := by
  refine ⟨?_, ?_, ?_, ?_⟩
  · intro id d hd
    obtain ⟨d', hd', hkept⟩ := run_record
      (fun (g : Fabric) (k : DeviceId) => g.state.devices[k]?) (R := DeviceKept) DeviceKept.refl
      (fun _ _ _ => DeviceKept.trans) (fun _ _ _ _ h hi _ _ hd => h.device_kept hi hd) hrun himport hd
    exact ⟨d', hd', hkept.generation, hkept.facts⟩
  · intro id r hr
    exact run_record (fun (g : Fabric) (k : RegionId) => g.state.regions[k]?)
      (R := fun r r' => r.generation ≤ r'.generation) (fun _ => le_refl _)
      (fun _ _ _ => le_trans) (fun _ _ _ _ h hi _ _ hr => h.region_generation_le hi hr) hrun himport hr
  · intro id p hp
    exact run_record (fun (g : Fabric) (k : PoolId) => g.state.pools[k]?)
      (R := fun p p' => p.generation ≤ p'.generation) (fun _ => le_refl _)
      (fun _ _ _ => le_trans) (fun _ _ _ _ h hi _ _ hp => h.pool_generation_le hi hp) hrun himport hp
  · intro dev old ctx hold hstale
    exact registerDevice_refused hold hstale ctx

/-- The region of the sample run moves on by a reconfiguration. -/
theorem records_move_forward_reconfiguredRun :
    ∃ tr f f' r r', Run exec f tr f' ∧ (∀ e ∈ tr, ∀ st, e.1 ≠ .importPersisted st) ∧
      f.state.regions[(⟨str "r1"⟩ : RegionId)]? = some r ∧
      f'.state.regions[(⟨str "r1"⟩ : RegionId)]? = some r' ∧ r.generation ≤ r'.generation := by
  have hrun := Run.of_execAll (Option.some_get reconfiguredRun_isSome).symm
  have hstored : ((reservedRun.get reservedRun_isSome).2.state.regions[(⟨str "r1"⟩ : RegionId)]?).isSome =
    true := by decide
  have himport : ∀ e ∈ (reconfiguredRun.get reconfiguredRun_isSome).1,
      ∀ st, e.1 ≠ .importPersisted st := by
    have hops : (reconfiguredRun.get reconfiguredRun_isSome).1.map (·.1) =
      [.reconfigureRegion ⟨str "r1"⟩ [⟨str "d1"⟩] (Synthetic.context ⟨1⟩),
        .revalidateRegion ⟨str "r1"⟩ (Synthetic.context ⟨1⟩)] := by decide
    intro e he st hst
    have hmem := List.mem_map_of_mem (f := (·.1)) he
    rw [hops, hst] at hmem
    simp at hmem
  obtain ⟨r, hr⟩ := Option.isSome_iff_exists.mp hstored
  obtain ⟨r', hr', hle⟩ := (records_move_forward hrun himport).2.1 _ r hr
  exact ⟨_, _, _, r, r', hrun, himport, hr, hr', hle⟩

end Fabric

end CxlFabric
