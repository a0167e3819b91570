import CxlFabric.PoolArithmetic

/-! # What a reconciliation takes for evidence

A pool is reconciled and revalidated from the flags of its members, which are copies of
facts about their devices. Nothing updates the flags when a device goes out of use, is
registered anew or comes back from disk. The totals are backed by the devices as long as
the members flagged online and healthy are. -/
namespace CxlFabric

/-- The states in which a registered device backs nothing. -/
def outOfUse : List DeviceState :=
  [.named .offline, .named .failed, .named .removed, .named .retired, .named .revalidationRequired]

/-- The device of a member is registered at the generation of the member, and in use. -/
def backsMember (devices : Map DeviceId CxlDevice) (m : PoolMember) : Bool :=
  match devices[m.device]? with
  | none => false
  | some d => d.generation = m.deviceGeneration && !outOfUse.contains d.state

/-- What a member has behind it. -/
def backedBytes (devices : Map DeviceId CxlDevice) (m : PoolMember) : ℕ :=
  if backsMember devices m then m.nominalBytes.toNat else 0

theorem onlineBytes_eq (m : PoolMember) : onlineBytes m = healthyBytes m + failedBytes m := by
  unfold onlineBytes healthyBytes failedBytes
  cases m.online <;> cases m.healthOk <;> simp

/-- The totals never show more than the members flagged online and healthy, also where a
total leaves a member out. -/
theorem recomputePool_le_healthy (p : CxlPool) : (recomputePool p).totalGovernedBytes.toNat ≤
    (recomputePool p).unavailableBytes.toNat + memberSum healthyBytes p.members := by
  rw [recomputePool_total, recomputePool_unavailable, funext onlineBytes_eq]
  exact sumWithin_parts_le healthyBytes failedBytes p.members

namespace Fabric
variable {f f' : Fabric} {id : PoolId}

/-- What the pool has available is backed by its devices. -/
def Backed (f : Fabric) (id : PoolId) : Prop :=
  ∀ p : CxlPool, f.state.pools[id]? = some p → p.totalGovernedBytes.toNat ≤
    p.unavailableBytes.toNat + memberSum (backedBytes f.state.devices) p.members

/-- The members flagged online and healthy have no more bytes than the members whose devices
back them. -/
def FlagsBacked (f : Fabric) (id : PoolId) : Prop :=
  ∀ p : CxlPool, f.state.pools[id]? = some p →
    memberSum healthyBytes p.members ≤ memberSum (backedBytes f.state.devices) p.members

/-- The online members of the pool fit a word. -/
def OnlineFits (f : Fabric) (id : PoolId) : Prop :=
  ∀ p : CxlPool, f.state.pools[id]? = some p → memberSum onlineBytes p.members < 2 ^ 64

/-- The call reconciles the pool, or revalidates it, and returns `OK`. -/
def Reconciles (f : Fabric) (op : Op) (f' : Fabric) (id : PoolId) : Prop :=
  f.exec op = some (f', .decision .ok) ∧
    ∃ ctx, op = .reconcilePool id ctx ∨ op = .revalidatePool id ctx

/-- The condition on the state before each such call. -/
def FlagsCurrent (f : Fabric) (op : Op) : Prop :=
  ∀ f' id, f.Reconciles op f' id → f.FlagsBacked id

/-- It is enough that no flag is older than the device it is about. -/
theorem flagsBacked_of_members (h : ∀ p : CxlPool, f.state.pools[id]? = some p →
    ∀ m ∈ p.members, m.online = true → m.healthOk = true → backsMember f.state.devices m = true) :
    f.FlagsBacked id := by
  intro p hp
  apply List.sum_le_sum
  intro m hm
  have hback := h p hp m hm
  unfold healthyBytes backedBytes
  split
  · next hflags =>
    rw [Bool.and_eq_true] at hflags
    rw [if_pos (hback hflags.1 hflags.2)]
  · exact Nat.zero_le _

/-- The totals of the pool are computed again; its members and all devices stay. -/
theorem Reconciles.pool {op : Op} (h : f.Reconciles op f' id) : ∃ p p' : CxlPool,
    f.state.pools[id]? = some p ∧ f'.state.pools[id]? = some p' ∧ p'.members = p.members ∧
      p'.totalGovernedBytes = (recomputePool p).totalGovernedBytes ∧
      p'.unavailableBytes = (recomputePool p).unavailableBytes ∧
      f'.state.devices = f.state.devices := by
  obtain ⟨hexec, ctx, hop⟩ := h
  have heffect := exec_effect hexec
  rcases hop with rfl | rfl
  · cases heffect with
    | refused fallible failed => cases failed
    | @reconcilePool _ old _ epoch present =>
      refine ⟨old, recomputePool old, present, ?_, rfl, rfl, rfl, rfl⟩
      rw [recomputeLedger_state_pools, setPool_state_pools, getElem?_insert_eq, if_pos rfl]
  · cases heffect with
    | refused fallible failed => cases failed
    | @revalidatePool _ old _ epoch present valid =>
      refine ⟨old, recomputePool { old with
        state := .available, evidenceCurrent := true, healthSummary := .named .healthy },
        present, ?_, rfl, rfl, rfl, rfl⟩
      rw [recomputeLedger_state_pools, setPool_state_pools, getElem?_insert_eq, if_pos rfl]

/-- The step: flags that are backed give totals that are backed. -/
theorem Reconciles.backed {op : Op} (h : f.Reconciles op f' id) (hflags : f.FlagsBacked id) :
    f'.Backed id := by
  obtain ⟨p, p', hp, hp', hmembers, htotal, hunavailable, hdevices⟩ := h.pool
  have hle := recomputePool_le_healthy p
  have hbacked := hflags p hp
  intro q hq
  cases hp'.symm.trans hq
  rw [htotal, hunavailable, hmembers, hdevices]
  omega

/-- Totals that leave no member out are backed only if the flags are. -/
theorem Reconciles.flagsBacked {op : Op} (h : f.Reconciles op f' id) (hfits : f.OnlineFits id)
    (hback : f'.Backed id) : f.FlagsBacked id := by
  obtain ⟨p, p', hp, hp', hmembers, htotal, hunavailable, hdevices⟩ := h.pool
  have hsum := hfits p hp
  have hparts : memberSum onlineBytes p.members =
      memberSum healthyBytes p.members + memberSum failedBytes p.members := by
    rw [funext onlineBytes_eq]
    exact List.sum_map_add
  obtain ⟨ht, hu⟩ := recomputePool_spec (by rwa [← hparts])
  have hbacked := hback p' hp'
  rw [htotal, hunavailable, hmembers, hdevices, ht, hu] at hbacked
  intro q hq
  cases hp.symm.trans hq
  omega

/-- In a run whose reconciliations all find flags that are backed, each of them leaves a pool
that is backed; and while the online members fit a word, in no other run. -/
theorem reconciliations_backed_iff {epoch : CoordinatorEpoch} {policy : PolicyGeneration}
    {tr : List (Op × Outcome)} (hrun : Run exec (new epoch policy) tr f) :
    (GuardedRun exec FlagsCurrent (new epoch policy) tr f →
      ∀ t op t' id, Occurs exec (new epoch policy) tr t op t' → t.Reconciles op t' id →
        t'.Backed id) ∧
    ((∀ t op t' id, Occurs exec (new epoch policy) tr t op t' → t.Reconciles op t' id →
        t.OnlineFits id ∧ t'.Backed id) →
      GuardedRun exec FlagsCurrent (new epoch policy) tr f) := by
  constructor
  · intro hguarded t op t' id hoccurs hrec
    exact hrec.backed (hguarded.guard_of_occurs hoccurs t' id hrec)
  · intro hbacked
    apply GuardedRun.of_occurs hrun
    intro t op t' hoccurs u id hrec
    obtain ⟨b, hexec⟩ := hoccurs.step
    cases hexec.symm.trans hrec.1
    obtain ⟨hfits, hback⟩ := hbacked t op t' id hoccurs hrec
    exact hrec.flagsBacked hfits hback

/-- The check of every flag against its device, where a pool is reconciled. -/
def passes (f : Fabric) : Op → Bool
  | .reconcilePool id _ | .revalidatePool id _ =>
    (f.state.pools[id]?.map (·.members)).all fun members =>
      members.all fun m => !(m.online && m.healthOk) || backsMember f.state.devices m
  | _ => true

theorem flagsCurrent_of_passes {op : Op} (h : f.passes op = true) : f.FlagsCurrent op := by
  intro f' id hrec
  obtain ⟨-, ctx, hop⟩ := hrec
  have hpass : ((f.state.pools[id]?.map (·.members)).all fun members =>
      members.all fun m => !(m.online && m.healthOk) || backsMember f.state.devices m) = true := by
    rcases hop with rfl | rfl <;> exact h
  apply flagsBacked_of_members
  intro p hp m hm honline hhealth
  rw [hp] at hpass
  simpa [honline, hhealth] using List.all_eq_true.mp hpass m hm

theorem reconciliations_backed_setup : ∃ tr f, GuardedRun exec FlagsCurrent (new ⟨1⟩ ⟨1⟩) tr f ∧
    (.reconcilePool ⟨str "p-1"⟩ (Synthetic.context ⟨1⟩), .decision .ok) ∈ tr ∧
    ∀ t op t' id, Occurs exec (new ⟨1⟩ ⟨1⟩) tr t op t' → t.Reconciles op t' id → t'.Backed id := by
  obtain ⟨tr, f, hrun, hmem⟩ : ∃ tr f,
      Run (fun t op => if t.passes op then t.exec op else none) (new ⟨1⟩ ⟨1⟩) tr f ∧
        (.reconcilePool ⟨str "p-1"⟩ (Synthetic.context ⟨1⟩), .decision .ok) ∈ tr := by
    apply Run.exists_of_execAll (l := Synthetic.setup ⟨1⟩ ++
      [.reconcilePool ⟨str "p-1"⟩ (Synthetic.context ⟨1⟩)])
    decide +kernel
  have hguarded : GuardedRun exec FlagsCurrent (new ⟨1⟩ ⟨1⟩) tr f :=
    GuardedRun.of_check (fun _ _ => flagsCurrent_of_passes) hrun
  exact ⟨tr, f, hguarded, hmem, (reconciliations_backed_iff hguarded.run).1 hguarded⟩

/-- The device has to be observed again, and its bytes are still available. -/
theorem reconciled_pool_is_not_backed : ¬∀ tr f t op t' id, Run exec (new ⟨1⟩ ⟨1⟩) tr f →
    Occurs exec (new ⟨1⟩ ⟨1⟩) tr t op t' → t.Reconciles op t' id → t'.Backed id := by
  intro h
  obtain ⟨tr, t, hrun, q, hq, hexec, hbytes⟩ : ∃ tr t, Run exec (new ⟨1⟩ ⟨1⟩) tr t ∧
      ∃ q ∈ t.exec (.reconcilePool ⟨str "p-1"⟩ (Synthetic.context ⟨1⟩)), q.2 = .decision .ok ∧
        ∃ p ∈ q.1.state.pools[(⟨str "p-1"⟩ : PoolId)]?,
          p.totalGovernedBytes = Synthetic.sampleBytes ∧ p.unavailableBytes = 0 ∧
          memberSum (backedBytes q.1.state.devices) p.members = 0 := by
    apply Run.exists_of_execAll (l := Synthetic.setup ⟨1⟩ ++
      [.markDeviceRevalidation ⟨str "d1"⟩ (Synthetic.context ⟨1⟩)])
    decide +kernel
  obtain ⟨p, hp, htotal, hunavailable, hsum⟩ := hbytes
  have hstep : t.exec (.reconcilePool ⟨str "p-1"⟩ (Synthetic.context ⟨1⟩)) =
      some (q.1, .decision .ok) := by rw [hq, ← hexec]
  have hback := h _ _ t _ q.1 ⟨str "p-1"⟩ (hrun.append (.single hstep))
    ⟨tr, _, [], rfl, hrun, hstep⟩ ⟨hstep, Synthetic.context ⟨1⟩, .inl rfl⟩ p hp
  rw [htotal, hunavailable, hsum] at hback
  exact absurd hback (by decide)

end Fabric
end CxlFabric
