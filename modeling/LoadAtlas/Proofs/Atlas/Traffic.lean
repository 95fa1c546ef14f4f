import LoadAtlas.Atlas.Traffic
import LoadAtlas.Proofs.Atlas.Change
import LoadAtlas.Proofs.Forest.Audit

/-!
# No split is lost in traffic

Inserts mark a leaf before they split it, and an insert that finds its leaf marked leaves the
split to whoever set the mark.  A sweep may erase that mark, and an insert that splits erases the
mark of its leaf even if another insert has set it anew.  What makes up for this is that marks
are only ever erased too early: wherever there is a mark, an insert is on its way to split that
leaf.  So an insert that leaves its split to another one leaves it to one that is still there,
and every leaf that is too full has an insert that will come to it.

The movements of clients are those of the inserts: whatever was taken up has come, but for the
inserts that are still on their way to be counted.
-/

namespace LoadAtlas

namespace Movement

/-- The clients that came, each with the weight of its key. -/
def gain (weight : String → Nat) : Movement → Nat
  | .came key => weight key
  | _ => 0

/-- The clients that left, each with the weight of its key. -/
def loss (weight : String → Nat) : Movement → Nat
  | .left key amount => weight key * amount
  | _ => 0

end Movement

namespace Stage

variable {stages : List Stage} {insert : Nat} {held stage next : Stage}

theorem mem_set_of_mem (at_ : stages[insert]? = some held) (member : stage ∈ stages)
    (different : stage ≠ held) : stage ∈ stages.set insert next := by
  obtain ⟨other, found⟩ := List.mem_iff_getElem?.mp member
  have elsewhere : insert ≠ other := by
    rintro rfl
    exact different (Option.some.inj (found.symm.trans at_))
  exact List.mem_iff_getElem?.mpr ⟨other, by rwa [List.getElem?_set_ne elsewhere]⟩

theorem mem_set_self (at_ : stages[insert]? = some held) : next ∈ stages.set insert next :=
  List.mem_set (List.getElem?_eq_some_iff.mp at_).1 next

theorem getElem?_set_self (at_ : stages[insert]? = some held) :
    (stages.set insert next)[insert]? = some next :=
  List.getElem?_set_self (List.getElem?_eq_some_iff.mp at_).1

/-- The location for which an insert is still to be counted. -/
def address? : Stage → Option Bucket.Address
  | .arriving address => some address
  | .uncovered address => some address
  | _ => none

/-- The weight of the client that an insert is still to count. -/
def pending (weight : String → Nat) (stage : Stage) : Nat :=
  match stage.address? with
  | some address => weight address.key
  | none => 0

theorem sum_pending_one (stages : List Stage) :
    (stages.map (pending fun _ => 1)).sum = stages.countP fun stage => stage.address?.isSome := by
  have counted := Table.sum_map_ite_eq_countP (fun stage => stage.address?.isSome = true) stages
  simp only [Bool.decide_eq_true] at counted
  rw [← counted]
  congr 1
  refine List.map_congr_left fun stage _ => ?_
  cases stage <;> rfl

theorem length_eq_countP (stages : List Stage) : stages.length =
    (stages.countP fun stage => stage.address?.isSome) +
      stages.countP fun stage => stage.address?.isNone := by
  rw [List.length_eq_countP_add_countP fun stage : Stage => stage.address?.isSome]
  congr 2
  funext stage
  cases stage <;> rfl

end Stage

namespace Traffic

/-- The weight of the client that arrives with a step, if its location is accepted. -/
def Step.arrival (config : Config) (weight : String → Nat) : Step → Nat
  | .arrive location =>
      match Bucket.address location config.bucketPrecision.toNat with
      | .ok address => weight address.key
      | .error _ => 0
  | _ => 0

variable {config : Config} {traffic : Traffic} {insert : Nat} {leaf : CellId} {stage : Stage}
  {address : Bucket.Address}

/-! ## One insert -/

theorem step_proceed (at_ : traffic.inserts[insert]? = some stage) :
    traffic.step config (.proceed insert) = traffic.proceed config insert stage := by
  simp only [step, at_]

theorem run_cons (step : Step) (steps : List Step) :
    traffic.run config (step :: steps) = (traffic.step config step).1.run config steps :=
  rfl

theorem run_of_finished (at_ : traffic.inserts[insert]? = some .finished) (steps : Nat) :
    traffic.run config (List.replicate steps (.proceed insert)) = traffic := by
  induction steps with
  | zero => rfl
  | succ steps induction =>
      rw [List.replicate_succ, run_cons, step_proceed at_]
      exact induction

theorem run_of_splitting (at_ : traffic.inserts[insert]? = some (.splitting leaf)) (steps : Nat) :
    traffic.run config (List.replicate (steps + 1) (.proceed insert)) =
      { traffic with
        territory := (traffic.territory.splitMarked config leaf).1
        inserts := traffic.inserts.set insert .finished
        splits := traffic.splits + (traffic.territory.splitMarked config leaf).2 } := by
  rw [List.replicate_succ, run_cons, step_proceed at_]
  apply run_of_finished
  exact Stage.getElem?_set_self at_

theorem run_of_overfull (at_ : traffic.inserts[insert]? = some (.overfull leaf))
    (isNew : (traffic.territory.mark leaf).2 = true) (steps : Nat) :
    traffic.run config (List.replicate (steps + 2) (.proceed insert)) =
      { traffic with
        territory := ((traffic.territory.mark leaf).1.splitMarked config leaf).1
        inserts := traffic.inserts.set insert .finished
        splits :=
          traffic.splits + ((traffic.territory.mark leaf).1.splitMarked config leaf).2 } := by
  have marks : traffic.proceed config insert (.overfull leaf) =
      ({ traffic with territory := (traffic.territory.mark leaf).1 }.setStage insert
        (.splitting leaf), .none) := by
    simp only [proceed, isNew, ↓reduceIte]
  have at_next : (traffic.inserts.set insert (.splitting leaf))[insert]? = some (.splitting leaf) :=
    Stage.getElem?_set_self at_
  rw [List.replicate_succ, run_cons, step_proceed at_, marks, run_of_splitting at_next]
  simp only [setStage, List.set_set]

theorem run_of_marked (at_ : traffic.inserts[insert]? = some (.overfull leaf))
    (isOld : (traffic.territory.mark leaf).2 = false) (steps : Nat) :
    traffic.run config (List.replicate (steps + 1) (.proceed insert)) =
      { traffic with
        territory := (traffic.territory.mark leaf).1
        inserts := traffic.inserts.set insert .finished } := by
  have marks : traffic.proceed config insert (.overfull leaf) =
      ({ traffic with territory := (traffic.territory.mark leaf).1 }.setStage insert .finished,
        .none) := by
    simp only [proceed, isOld, Bool.false_eq_true, ↓reduceIte]
  rw [List.replicate_succ, run_cons, step_proceed at_, marks]
  apply run_of_finished
  exact Stage.getElem?_set_self at_

theorem run_of_counted (at_ : traffic.inserts[insert]? = some stage) (address : Bucket.Address)
    (steps : Nat) :
    (traffic.count config insert address).1.run config
        (List.replicate (steps + 2) (.proceed insert)) =
      { traffic with
        territory := (traffic.territory.insert config address 1).1
        inserts := traffic.inserts.set insert .finished
        splits := traffic.splits + (traffic.territory.insert config address 1).2 } := by
  obtain ⟨placement, placementEq⟩ :
      ∃ placement, placement = traffic.territory.place config address 1 := ⟨_, rfl⟩
  have at_next {next : Stage} : (traffic.inserts.set insert next)[insert]? = some next :=
    Stage.getElem?_set_self at_
  cases overfull : placement.overfull with
  | false =>
      have counted : (traffic.count config insert address).1 =
          { traffic with territory := placement.territory }.setStage insert .finished := by
        simp only [count, ← placementEq, overfull, Bool.false_eq_true, ↓reduceIte]
      rw [counted, run_of_finished at_next]
      simp only [setStage, Territory.insert, ← placementEq, overfull, Bool.false_eq_true,
        ↓reduceIte, Nat.add_zero]
  | true =>
      have counted : (traffic.count config insert address).1 =
          { traffic with territory := placement.territory }.setStage insert
            (.overfull placement.leaf) := by
        simp only [count, ← placementEq, overfull, ↓reduceIte]
      cases isNew : (placement.territory.mark placement.leaf).2 with
      | true =>
          rw [counted, run_of_overfull at_next isNew]
          simp only [setStage, List.set_set, Territory.insert, ← placementEq, overfull, isNew,
            ↓reduceIte]
      | false =>
          rw [counted, run_of_marked at_next isNew]
          simp only [setStage, List.set_set, Territory.insert, ← placementEq, overfull, isNew,
            Bool.false_eq_true, ↓reduceIte, Nat.add_zero]

/-- Once the territory lock is held, it does not matter who covered the location. -/
theorem proceed_uncovered (sound : config.Sound) (wellFormed : traffic.territory.WellFormed config)
    (insert : Nat) (address : Bucket.Address) :
    traffic.proceed config insert (.uncovered address) = traffic.count config insert address := by
  simp only [proceed, count, wellFormed.place_covering sound.topLevel_le_maxLevel
    sound.maxLevel_le_finestLevel]

/-- An insert that nothing comes between counts its client as a territory by itself does. -/
theorem run_of_arriving (sound : config.Sound) (wellFormed : traffic.territory.WellFormed config)
    (at_ : traffic.inserts[insert]? = some (.arriving address)) :
    traffic.run config (List.replicate 4 (.proceed insert)) =
      { traffic with
        territory := (traffic.territory.insert config address 1).1
        inserts := traffic.inserts.set insert .finished
        splits := traffic.splits + (traffic.territory.insert config address 1).2 } := by
  cases found : traffic.territory.forest.locate? address.location config.topLevel.toNat
      config.maxLevel.toNat with
  | some leaf =>
      have counts : traffic.proceed config insert (.arriving address) =
          traffic.count config insert address := by
        simp only [proceed, found]
      rw [List.replicate_succ, run_cons, step_proceed at_, counts]
      exact run_of_counted at_ address 1
  | none =>
      have goesOn : traffic.proceed config insert (.arriving address) =
          (traffic.setStage insert (.uncovered address), .none) := by
        simp only [proceed, found]
      have at_next : (traffic.setStage insert (.uncovered address)).inserts[insert]? =
          some (.uncovered address) := Stage.getElem?_set_self at_
      have known : (traffic.setStage insert (.uncovered address)).territory.WellFormed config :=
        wellFormed
      rw [List.replicate_succ, run_cons, step_proceed at_, goesOn, List.replicate_succ, run_cons,
        step_proceed at_next, proceed_uncovered sound known]
      refine (run_of_counted at_next address 0).trans ?_
      simp only [setStage, List.set_set]

/-! ## Marks -/

/-- An insert goes to split a leaf: it set the mark, or it will find the leaf unmarked. -/
def GoesToSplit (traffic : Traffic) (insert : Nat) (leaf : CellId) : Prop :=
  traffic.inserts[insert]? = some (.splitting leaf) ∨
    traffic.inserts[insert]? = some (.overfull leaf) ∧ leaf ∉ traffic.territory.marked

/-- Every mark has an insert that goes to split the leaf, and every leaf that is too full has one
that goes to mark it or to split it. -/
structure Watched (config : Config) (traffic : Traffic) : Prop where
  wellFormed : traffic.territory.WellFormed config
  addresses : ∀ stage ∈ traffic.inserts, ∀ address, stage.address? = some address → address.Sound
  marked : ∀ leaf ∈ traffic.territory.marked, .splitting leaf ∈ traffic.inserts
  overfull : ∀ leaf,
    traffic.territory.forest.Overfull config.splitThreshold.toNat config.maxLevel.toNat leaf →
      .overfull leaf ∈ traffic.inserts ∨ .splitting leaf ∈ traffic.inserts
  splits : traffic.splits = traffic.merges + traffic.territory.forest.branches.length

theorem watched_empty (config : Config) : ({} : Traffic).Watched config where
  wellFormed := Territory.wellFormed_empty config
  addresses _ member := absurd member List.not_mem_nil
  marked _ member := absurd member Std.ExtTreeSet.not_mem_empty
  overfull leaf overfull := absurd overfull (Forest.calm_empty _ _ leaf)
  splits := (congrArg List.length Forest.branches_empty).symm

/-- What a step leaves behind, with a ledger of the clients. -/
structure Kept (config : Config) (before : Traffic) (result : Traffic × Movement) : Prop where
  watched : result.1.Watched config
  weigh : ∀ weight, result.1.territory.forest.weigh weight + result.2.loss weight =
    before.territory.forest.weigh weight + result.2.gain weight

namespace Watched

variable (watched : traffic.Watched config)

include watched

theorem kept : Kept config traffic (traffic, .none) :=
  ⟨watched, fun _ => rfl⟩

/-- No insert gets to another address than the one with which it arrived. -/
theorem addresses_set {next : Stage} (at_ : traffic.inserts[insert]? = some stage)
    (same : ∀ address, next.address? = some address → stage.address? = some address) :
    ∀ other ∈ traffic.inserts.set insert next, ∀ address, other.address? = some address →
      address.Sound := by
  intro other member address held
  rcases List.mem_or_eq_of_mem_set member with earlier | rfl
  · exact watched.addresses other earlier address held
  · exact watched.addresses stage (List.mem_of_getElem? at_) address (same address held)

/-- Whoever finds the leaf marked leaves it to an insert that goes to split it. -/
theorem mark (at_ : traffic.inserts[insert]? = some (.overfull leaf)) :
    Kept config traffic (traffic.proceed config insert (.overfull leaf)) := by
  obtain ⟨next, nextEq⟩ : ∃ next, next =
      if !traffic.territory.marked.contains leaf then Stage.splitting leaf else .finished :=
    ⟨_, rfl⟩
  have proceeds : traffic.proceed config insert (.overfull leaf) =
      ({ traffic with territory := (traffic.territory.mark leaf).1 }.setStage insert next,
        .none) := by
    rw [nextEq]
    rfl
  -- Either this insert splits the leaf or the one that set the mark does.
  have splitter : Stage.splitting leaf ∈ traffic.inserts.set insert next := by
    by_cases marked : leaf ∈ traffic.territory.marked
    · exact Stage.mem_set_of_mem at_ (watched.marked leaf marked) (by simp)
    · rw [← Std.ExtTreeSet.contains_iff_mem, Bool.not_eq_true] at marked
      rw [nextEq, marked, Bool.not_false, if_pos rfl]
      exact Stage.mem_set_self at_
  rw [proceeds]
  refine ⟨⟨watched.wellFormed, ?_, fun other marked => ?_, fun other overfull => ?_,
    watched.splits⟩, fun _ => rfl⟩
  · refine watched.addresses_set at_ fun address held => ?_
    rw [nextEq] at held
    split at held <;> simp [Stage.address?] at held
  · rcases Std.ExtTreeSet.mem_insert.mp marked with same | earlier
    · rwa [← Std.LawfulEqCmp.eq_of_compare same]
    · exact Stage.mem_set_of_mem at_ (watched.marked other earlier) (by simp)
  · by_cases same : other = leaf
    · rw [same]
      exact .inr splitter
    · refine (watched.overfull other overfull).imp (fun marks => ?_) fun splits => ?_
      · exact Stage.mem_set_of_mem at_ marks (by simpa using same)
      · exact Stage.mem_set_of_mem at_ splits (by simp)

theorem exists_goesToSplit (overfull : traffic.territory.forest.Overfull
      config.splitThreshold.toNat config.maxLevel.toNat leaf) :
    ∃ insert, traffic.GoesToSplit insert leaf := by
  by_cases marked : leaf ∈ traffic.territory.marked
  · obtain ⟨insert, at_⟩ := List.mem_iff_getElem?.mp (watched.marked leaf marked)
    exact ⟨insert, .inl at_⟩
  · rcases watched.overfull leaf overfull with marks | splits
    · obtain ⟨insert, at_⟩ := List.mem_iff_getElem?.mp marks
      exact ⟨insert, .inr ⟨at_, marked⟩⟩
    · obtain ⟨insert, at_⟩ := List.mem_iff_getElem?.mp splits
      exact ⟨insert, .inl at_⟩

theorem quiet (finished : ∀ stage ∈ traffic.inserts, stage = .finished) :
    traffic.territory.Quiet config where
  marked := by
    apply Std.ExtTreeSet.eq_empty_iff_forall_not_mem.mpr
    intro leaf marked
    exact Stage.noConfusion (finished _ (watched.marked leaf marked))
  calm leaf overfull := by
    rcases watched.overfull leaf overfull with marks | splits
    · exact Stage.noConfusion (finished _ marks)
    · exact Stage.noConfusion (finished _ splits)

variable (sound : config.Sound)

include sound

/-- Only the leaf that counts can become too full, and its insert goes to mark it. -/
theorem count {address : Bucket.Address} (at_ : traffic.inserts[insert]? = some stage)
    (looking : stage.address? = some address) :
    Kept config traffic (traffic.count config insert address) := by
  have addressSound := watched.addresses stage (List.mem_of_getElem? at_) address looking
  have extended := watched.wellFormed.extended_place sound address 1
  obtain ⟨placed, weighed⟩ := watched.wellFormed.place sound addressSound Nat.one_pos
  -- An insert that still looks for its leaf is not one that goes to mark or to split another.
  have notOverfull (leaf : CellId) : Stage.overfull leaf ≠ stage := by
    rintro rfl
    simp [Stage.address?] at looking
  have notSplitting (leaf : CellId) : Stage.splitting leaf ≠ stage := by
    rintro rfl
    simp [Stage.address?] at looking
  refine ⟨⟨placed, ?_, fun leaf marked => ?_, fun leaf overfull => ?_, ?_⟩, fun weight => ?_⟩
  · refine watched.addresses_set at_ fun other held => ?_
    split at held <;> simp [Stage.address?] at held
  · exact Stage.mem_set_of_mem at_ (watched.marked leaf marked) (notSplitting leaf)
  · rcases extended.overfull overfull with rfl | before
    · left
      simp only [Traffic.count, setStage, Territory.overfull_of_place _ overfull, ↓reduceIte]
      exact Stage.mem_set_self at_
    · refine (watched.overfull leaf before).imp (fun marks => ?_) fun splits => ?_
      · exact Stage.mem_set_of_mem at_ marks (notOverfull leaf)
      · exact Stage.mem_set_of_mem at_ splits (notSplitting leaf)
  · exact watched.splits.trans (congrArg _ extended.length_branches.symm)
  · simpa [Movement.loss, Movement.gain, Traffic.count, setStage] using weighed weight

/-- Clearing the mark of a leaf takes it from no insert that still needs it. -/
theorem split (at_ : traffic.inserts[insert]? = some (.splitting leaf)) :
    Kept config traffic (traffic.proceed config insert (.splitting leaf)) := by
  have bounded := sound.maxLevel_le_finestLevel
  obtain ⟨divided, weighed⟩ := watched.wellFormed.splitMarked sound leaf
  have notSplit {other : CellId} (different : other ≠ leaf) :
      Stage.splitting other ≠ .splitting leaf := by
    simpa using different
  refine ⟨⟨divided, ?_, fun other marked => ?_, fun other overfull => ?_, ?_⟩, fun weight => ?_⟩
  · exact watched.addresses_set at_ fun other held => by simp [Stage.address?] at held
  · have both := Std.ExtTreeSet.mem_erase.mp marked
    have different : other ≠ leaf := by
      rintro rfl
      simp at both
    exact Stage.mem_set_of_mem at_ (watched.marked other both.2) (notSplit different)
  · -- The cascade leaves nothing too full below its leaf, whatever the mark was worth.
    obtain ⟨before, different⟩ := Forest.overfull_of_splitCascade bounded overfull
    refine (watched.overfull other before).imp (fun marks => ?_) fun splits => ?_
    · exact Stage.mem_set_of_mem at_ marks (by simp)
    · exact Stage.mem_set_of_mem at_ splits (notSplit different)
  · have splits := watched.splits
    have branches := (Forest.divided_splitCascade traffic.territory.forest leaf
      config.splitThreshold.toNat config.maxLevel.toNat).length_branches watched.wellFormed bounded
    simp only [proceed, setStage, Territory.splitMarked] at branches ⊢
    omega
  · exact congrArg (· + 0) (weighed weight)

theorem proceed (at_ : traffic.inserts[insert]? = some stage) :
    Kept config traffic (traffic.proceed config insert stage) := by
  cases stage with
  | arriving address =>
      cases found : traffic.territory.forest.locate? address.location config.topLevel.toNat
          config.maxLevel.toNat with
      | some leaf =>
          simp only [Traffic.proceed, found]
          exact watched.count sound at_ rfl
      | none =>
          simp only [Traffic.proceed, found]
          refine ⟨⟨watched.wellFormed, ?_, fun leaf marked => ?_, fun leaf overfull => ?_,
            watched.splits⟩, fun _ => rfl⟩
          · exact watched.addresses_set at_ fun _ held => held
          · exact Stage.mem_set_of_mem at_ (watched.marked leaf marked) (by simp)
          · refine (watched.overfull leaf overfull).imp (fun marks => ?_) fun splits => ?_
            · exact Stage.mem_set_of_mem at_ marks (by simp)
            · exact Stage.mem_set_of_mem at_ splits (by simp)
  | uncovered address =>
      rw [proceed_uncovered sound watched.wellFormed]
      exact watched.count sound at_ rfl
  | overfull leaf => exact watched.mark at_
  | splitting leaf => exact watched.split sound at_
  | finished => exact watched.kept

/-! ## Any step -/

theorem step (step : Step) : Kept config traffic (traffic.step config step) := by
  cases step with
  | arrive location =>
      cases accepted : Bucket.address location config.bucketPrecision.toNat with
      | error fault =>
          simp only [Traffic.step, accepted]
          exact watched.kept
      | ok address =>
          simp only [Traffic.step, accepted]
          refine ⟨⟨watched.wellFormed, fun stage member other held => ?_, fun leaf marked => ?_,
            fun leaf overfull => ?_, watched.splits⟩, fun _ => rfl⟩
          · rcases List.mem_append.mp member with earlier | fresh
            · exact watched.addresses stage earlier other held
            · obtain rfl := List.mem_singleton.mp fresh
              obtain rfl := Option.some.inj held
              exact Bucket.sound_of_address accepted
          · exact List.mem_append_left _ (watched.marked leaf marked)
          · exact (watched.overfull leaf overfull).imp (List.mem_append_left _)
              (List.mem_append_left _)
  | proceed insert =>
      cases at_ : traffic.inserts[insert]? with
      | none =>
          simp only [Traffic.step, at_]
          exact watched.kept
      | some stage =>
          simp only [Traffic.step, at_]
          exact watched.proceed sound at_
  | remove location amount =>
      cases accepted : Bucket.address location config.bucketPrecision.toNat with
      | error fault =>
          simp only [Traffic.step, accepted]
          exact watched.kept
      | ok address =>
          have known := watched.wellFormed
          obtain ⟨left, weighed, _⟩ :=
            known.remove sound (Bucket.sound_of_address accepted) amount
          have marks := known.marked_remove sound address amount
          have branches := known.length_branches_remove sound address amount
          simp only [Traffic.step, accepted]
          refine ⟨⟨left, watched.addresses, fun leaf marked => ?_, fun leaf overfull => ?_, ?_⟩,
            weighed⟩
          · exact watched.marked leaf (marks ▸ marked)
          · exact watched.overfull leaf (known.overfull_of_remove sound overfull)
          · exact watched.splits.trans (congrArg _ branches.symm)
  | sweep =>
      have known := watched.wellFormed
      obtain ⟨left, weighed⟩ := known.sweep
      have branches := known.length_branches_sweep
      have below := Nat.le_of_lt sound.mergeThreshold_lt_splitThreshold
      have splits := watched.splits
      refine ⟨⟨left, watched.addresses, fun leaf marked => ?_, fun leaf overfull => ?_, ?_⟩,
        weighed⟩
      · exact watched.marked leaf (Territory.marked_of_sweep marked)
      · exact watched.overfull leaf (known.swept_sweep.overfull below overfull)
      · simp only [Traffic.step]
        omega

theorem run (steps : List Step) : (traffic.run config steps).Watched config := by
  induction steps generalizing traffic with
  | nil => exact watched
  | cons step steps induction => exact induction (watched.step sound step).watched

theorem weigh_run (steps : List Step) (weight : String → Nat) :
    (traffic.run config steps).territory.forest.weigh weight +
        ((traffic.trace config steps).map (Movement.loss weight)).sum =
      traffic.territory.forest.weigh weight +
        ((traffic.trace config steps).map (Movement.gain weight)).sum := by
  induction steps generalizing traffic with
  | nil => rfl
  | cons step steps induction =>
      have here := watched.step sound step
      have rest := induction here.watched
      have weighed := here.weigh weight
      simp only [trace, List.map_cons, List.sum_cons]
      change ((traffic.step config step).1.run config steps).territory.forest.weigh weight + _ = _
      omega

/-- An insert that goes to split a leaf needs two more steps for it at most. -/
theorem isSplit_of_goesToSplit (goes : traffic.GoesToSplit insert leaf)
    (overfull : traffic.territory.forest.Overfull config.splitThreshold.toNat
      config.maxLevel.toNat leaf) :
    (traffic.run config (List.replicate 2 (.proceed insert))).territory.forest.isSplit leaf =
      true := by
  have split := Forest.WellFormed.isSplit_splitCascade watched.wellFormed
    sound.maxLevel_le_finestLevel overfull
  rcases goes with at_ | ⟨at_, unmarked⟩
  · rw [run_of_splitting at_]
    exact split
  · have isNew : (traffic.territory.mark leaf).2 = true := by
      rw [← Std.ExtTreeSet.contains_iff_mem, Bool.not_eq_true] at unmarked
      rw [Territory.mark, unmarked, Bool.not_false]
    rw [run_of_overfull at_ isNew]
    exact split

end Watched

/-! ## Arrivals -/

theorem gain_count (config : Config) (weight : String → Nat) (territory : Territory)
    (at_ : traffic.inserts[insert]? = some stage) (looking : stage.address? = some address) :
    ({ traffic with territory }.count config insert address).2.gain weight +
        (({ traffic with territory }.count config insert address).1.inserts.map
          (Stage.pending weight)).sum =
      (traffic.inserts.map (Stage.pending weight)).sum := by
  obtain ⟨next, nextEq⟩ : ∃ next, next = if (territory.place config address 1).overfull then
      Stage.overfull (territory.place config address 1).leaf else .finished := ⟨_, rfl⟩
  have exchanged := sum_map_set (Stage.pending weight) at_ next
  have before : stage.pending weight = weight address.key := by rw [Stage.pending, looking]
  have after : next.pending weight = 0 := by
    rw [nextEq]
    split <;> rfl
  have inserts : ({ traffic with territory }.count config insert address).1.inserts =
      traffic.inserts.set insert next := by rw [nextEq]; rfl
  have came : ({ traffic with territory }.count config insert address).2.gain weight =
      weight address.key := rfl
  rw [inserts, came]
  omega

theorem sum_pending_setStage (weight : String → Nat) (at_ : traffic.inserts[insert]? = some stage)
    {next : Stage} (same : next.pending weight = stage.pending weight) :
    ((traffic.setStage insert next).inserts.map (Stage.pending weight)).sum =
      (traffic.inserts.map (Stage.pending weight)).sum := by
  have exchanged := sum_map_set (Stage.pending weight) at_ next
  rw [same] at exchanged
  exact Nat.add_right_cancel exchanged

/-- An insert counts its client when it is through with looking for its leaf, and not again. -/
theorem gain_proceed (config : Config) (weight : String → Nat)
    (at_ : traffic.inserts[insert]? = some stage) :
    (traffic.proceed config insert stage).2.gain weight +
        ((traffic.proceed config insert stage).1.inserts.map (Stage.pending weight)).sum =
      (traffic.inserts.map (Stage.pending weight)).sum := by
  cases stage with
  | arriving address =>
      simp only [proceed]
      split
      · exact gain_count config weight traffic.territory at_ rfl
      · exact (Nat.zero_add _).trans (sum_pending_setStage weight at_ rfl)
  | uncovered address => exact gain_count config weight _ at_ rfl
  | overfull leaf =>
      refine (Nat.zero_add _).trans (sum_pending_setStage weight at_ ?_)
      split <;> rfl
  | splitting leaf => exact (Nat.zero_add _).trans (sum_pending_setStage weight at_ rfl)
  | finished => exact Nat.zero_add _

theorem gain_step (config : Config) (traffic : Traffic) (step : Step) (weight : String → Nat) :
    (traffic.step config step).2.gain weight +
        ((traffic.step config step).1.inserts.map (Stage.pending weight)).sum =
      (traffic.inserts.map (Stage.pending weight)).sum + step.arrival config weight := by
  cases step with
  | arrive location =>
      cases accepted : Bucket.address location config.bucketPrecision.toNat with
      | error fault => simp [Traffic.step, Step.arrival, accepted, Movement.gain]
      | ok address =>
          simp [Traffic.step, Step.arrival, accepted, Movement.gain, Stage.pending, Stage.address?]
  | proceed insert =>
      cases at_ : traffic.inserts[insert]? with
      | none => simp [Traffic.step, at_, Step.arrival, Movement.gain]
      | some stage =>
          rw [step_proceed at_]
          exact gain_proceed config weight at_
  | remove location amount =>
      cases accepted : Bucket.address location config.bucketPrecision.toNat <;>
        simp [Traffic.step, Step.arrival, accepted, Movement.gain]
  | sweep => simp [Traffic.step, Step.arrival, Movement.gain]

/-- The clients that came are those of the accepted arrivals whose inserts are through with
looking for their leaves. -/
theorem gain_run (config : Config) (traffic : Traffic) (steps : List Step)
    (weight : String → Nat) :
    ((traffic.trace config steps).map (Movement.gain weight)).sum +
        ((traffic.run config steps).inserts.map (Stage.pending weight)).sum =
      (traffic.inserts.map (Stage.pending weight)).sum +
        (steps.map (Step.arrival config weight)).sum := by
  induction steps generalizing traffic with
  | nil => simp [trace, run]
  | cons step steps induction =>
      have here := gain_step config traffic step weight
      have rest := induction (traffic.step config step).1
      rw [run_cons]
      simp only [trace, List.map_cons, List.sum_cons]
      omega

theorem length_inserts_proceed (config : Config) (traffic : Traffic) (insert : Nat)
    (stage : Stage) :
    (traffic.proceed config insert stage).1.inserts.length = traffic.inserts.length := by
  cases stage with
  | arriving address =>
      simp only [proceed]
      split <;> exact List.length_set
  | uncovered address => exact List.length_set
  | overfull leaf => exact List.length_set
  | splitting leaf => exact List.length_set
  | finished => rfl

theorem length_inserts_step (config : Config) (traffic : Traffic) (step : Step) :
    (traffic.step config step).1.inserts.length =
      traffic.inserts.length + step.arrival config fun _ => 1 := by
  cases step with
  | arrive location =>
      cases accepted : Bucket.address location config.bucketPrecision.toNat <;>
        simp [Traffic.step, Step.arrival, accepted]
  | proceed insert =>
      cases at_ : traffic.inserts[insert]? with
      | none => simp [Traffic.step, at_, Step.arrival]
      | some stage =>
          rw [step_proceed at_]
          exact length_inserts_proceed config traffic insert stage
  | remove location amount =>
      cases accepted : Bucket.address location config.bucketPrecision.toNat <;>
        simp [Traffic.step, Step.arrival, accepted]
  | sweep => rfl

theorem length_inserts_run (config : Config) (traffic : Traffic) (steps : List Step) :
    (traffic.run config steps).inserts.length =
      traffic.inserts.length + (steps.map (Step.arrival config fun _ => 1)).sum := by
  induction steps generalizing traffic with
  | nil => rfl
  | cons step steps induction =>
      rw [run_cons, induction, length_inserts_step, List.map_cons, List.sum_cons, Nat.add_assoc]

/-! ## Any order of steps -/

/-- What holds whenever inserts, removals and sweeps have taken some of their steps, in whatever
order. -/
structure Intact (config : Config) (steps : List Step) : Prop where
  audited : (run config {} steps).territory.forest.audit = .ok ()
  /-- As many clients came as inserts are through with looking for their leaves. -/
  came : ((trace config {} steps).map (Movement.gain fun _ => 1)).sum =
    (run config {} steps).inserts.countP fun stage => stage.address?.isNone
  /-- Whatever weight a client has, every arrival counts once, when it comes or as one that is
  still to come. -/
  arrivals : ∀ weight : String → Nat, ((trace config {} steps).map (Movement.gain weight)).sum +
      ((run config {} steps).inserts.map (Stage.pending weight)).sum =
    (steps.map (Step.arrival config weight)).sum
  /-- The clients with a key are those that came and did not leave. -/
  balance : ∀ key : String, (run config {} steps).territory.forest.countOf key +
      ((trace config {} steps).map (Movement.loss (BucketTable.only key))).sum =
    ((trace config {} steps).map (Movement.gain (BucketTable.only key))).sum
  clients : (run config {} steps).territory.forest.clientCount +
      ((trace config {} steps).map (Movement.loss fun _ => 1)).sum =
    ((trace config {} steps).map (Movement.gain fun _ => 1)).sum
  /-- A leaf that is too full has an insert that goes to split it, and whose next two steps do. -/
  attended : ∀ leaf : CellId, (run config {} steps).territory.forest.Overfull
      config.splitThreshold.toNat config.maxLevel.toNat leaf →
    ∃ insert, (run config {} steps).GoesToSplit insert leaf ∧
      ((run config {} steps).run config
        (List.replicate 2 (.proceed insert))).territory.forest.isSplit leaf = true
  /-- Where no insert is under way, no leaf is marked and none is too full. -/
  quiet : (∀ stage ∈ (run config {} steps).inserts, stage = .finished) →
    (run config {} steps).territory.marked = ∅ ∧
      (run config {} steps).territory.forest.Calm config.splitThreshold.toNat config.maxLevel.toNat
  /-- Splits less merges are the split cells. -/
  splits : (run config {} steps).splits =
    (run config {} steps).merges + (run config {} steps).territory.forest.branches.length

theorem intact_of_sound (sound : config.Sound) (steps : List Step) : Intact config steps := by
  have watched := (watched_empty config).run sound steps
  have weighed := (watched_empty config).weigh_run sound steps
  have nothing (weight : String → Nat) :
      ({} : Traffic).territory.forest.weigh weight = 0 := Forest.weigh_empty weight
  have arrivals (weight : String → Nat) := gain_run config {} steps weight
  simp only [List.map_nil, List.sum_nil, Nat.zero_add] at arrivals
  refine ⟨Forest.WellFormed.audit watched.wellFormed, ?_, arrivals, fun key => ?_, ?_,
    fun leaf overfull => ?_, fun finished => ?_, watched.splits⟩
  · have all := arrivals fun _ => 1
    have inserts := length_inserts_run config {} steps
    rw [Stage.sum_pending_one] at all
    rw [Stage.length_eq_countP, ← all] at inserts
    simp only [List.length_nil, Nat.zero_add] at inserts
    omega
  · have keyed := weighed (BucketTable.only key)
    rwa [nothing, Nat.zero_add, ← Forest.countOf_eq_weigh] at keyed
  · have all := weighed fun _ => 1
    rwa [nothing, Nat.zero_add, ← Forest.WellFormed.clientCount_eq_weigh watched.wellFormed] at all
  · obtain ⟨insert, goes⟩ := watched.exists_goesToSplit overfull
    exact ⟨insert, goes, watched.isSplit_of_goesToSplit sound goes overfull⟩
  · have quiet := watched.quiet finished
    exact ⟨quiet.marked, quiet.calm⟩

/-- Three inserts at one place, the last of which marks a leaf that a removal and a sweep change
before it is split. -/
theorem intact_crowded :
    Intact { Config.standard with splitThreshold := 2, mergeThreshold := 1 }
      [.arrive ⟨2.35, 48.85⟩, .arrive ⟨2.35, 48.85⟩, .arrive ⟨2.35, 48.85⟩, .proceed 0, .proceed 1,
        .proceed 1, .proceed 0, .proceed 2, .proceed 2, .remove ⟨2.35, 48.85⟩ 1, .sweep,
        .proceed 2] :=
  intact_of_sound (show Config.fault? _ = none from rfl) _

end Traffic

end LoadAtlas
