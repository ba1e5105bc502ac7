import Skirmish.Proofs.World.Attempts
import Skirmish.Proofs.World.Safety

/-!
# Worlds that can be reached

A match is founded in two ways only: the terrain changes, but not the size of the map, and whatever
stands on it has been spawned from a preset.  So what both of them keep holds of every founded
match.  Roster and index agree in every world that a match can come to, whether it started empty or
was founded from settings.

## Main definitions

* `UnitPreset.IsUsual` — the presets that a match is founded with.
* `World.IsFounding` — the properties that founding a match keeps.
* `World.Reachable` — the worlds that operations reach from an empty or a founded one.

## Main results

* `IsFounding.foundTown`, `IsFounding.attempts`, `IsFounding.generateBy` — the stages of founding.
* `Reachable.inStep` — roster and index are in step in every world that can be reached.
-/

namespace Skirmish

/-! ### Terrain -/

namespace Map

theorem bounds_congr {m m' : Map} (h : m.grid.SameSize m'.grid) : m'.bounds = m.bounds := by
  rw [bounds, bounds, h.1, h.2]

theorem sameSize_shapeCell {relief : Relief} {g g' : Grid} {cell : UInt32 × UInt32}
    (h : shapeCell relief g cell = .ok g') : g.SameSize g' := by
  simp only [shapeCell, Checked.bind_eq_ok_iff] at h
  obtain ⟨center, -, h⟩ := h
  split at h <;> obtain rfl := Except.ok.inj h <;> exact ⟨rfl, rfl⟩

theorem sameSize_shape {relief : Relief} {m m' : Map} (h : m.shape relief = .ok m') :
    m.grid.SameSize m'.grid := by
  simp only [shape, Checked.bind_eq_ok_iff, Except.ok.injEq] at h
  obtain ⟨grid, shaped, rfl⟩ := h
  exact Checked.foldlM_induction (P := m.grid.SameSize)
    (fun same shaped => same.trans (sameSize_shapeCell shaped)) ⟨rfl, rfl⟩ shaped

end Map

/-- The presets that leave nothing but place and color open. -/
def UnitPreset.IsUsual : UnitPreset → Prop
  | villager .. | resource .. | building .. => True
  | resourceNode .. | mobile .. => False

namespace World

/-! ### Founding -/

section

variable {σ : Type} {means : Means σ} {w w' : World} {center : Point}

/-- All that a house does. -/
theorem of_addHouse {n i : Nat} (h : addHouse means center n w i = .ok w') :
    ∃ place spawned, w.spawnBuilding place .house 1 = .ok (spawned, w') := by
  simp only [World.addHouse, Checked.bind_eq_ok_iff] at h
  obtain ⟨place, -, added⟩ := h
  obtain ⟨⟨spawned, w₁⟩, spawn, rfl⟩ := Checked.map_eq_ok_iff.mp added
  exact ⟨place, spawned, spawn⟩

/-- All that a villager does. -/
theorem of_addVillager {i : Nat} (h : addVillager center w i = .ok w') :
    ∃ place spawned, w.spawnVillager place (villagerColor i) = .ok (spawned, w') := by
  simp only [World.addVillager, Checked.bind_eq_ok_iff] at h
  obtain ⟨place, -, added⟩ := h
  obtain ⟨⟨spawned, w₁⟩, spawn, rfl⟩ := Checked.map_eq_ok_iff.mp added
  exact ⟨place, spawned, spawn⟩

/-- What founding a match keeps: a property that survives another map of the same size, and units
from presets as they are usual. -/
structure IsFounding (P : World → Prop) : Prop where
  remap : ∀ {w : World} {map : Map}, P w → w.map.grid.SameSize map.grid → P { w with map }
  spawn : ∀ {w w' : World} {spawned : Option EntityId} (preset : UnitPreset), preset.IsUsual →
    P w → w.spawnUnit (fun id => .ok (preset.build id)) = .ok (spawned, w') → P w'

namespace IsFounding

variable {P : World → Prop}

theorem clearTownGround (keeps : IsFounding P) (h : P w)
    (cleared : w.clearTownGround center = .ok w') : P w' := by
  simp only [World.clearTownGround, Checked.bind_eq_ok_iff, Except.ok.injEq] at cleared
  obtain ⟨grid, cleared, rfl⟩ := cleared
  refine keeps.remap h ?_
  exact Checked.foldlM_induction (P := w.map.grid.SameSize)
    (fun same cleared => same.trans (greener_clearCell cleared).sameSize) ⟨rfl, rfl⟩ cleared

theorem addHouse (keeps : IsFounding P) {n i : Nat} (h : P w)
    (added : addHouse means center n w i = .ok w') : P w' := by
  obtain ⟨place, spawned, spawn⟩ := of_addHouse added
  exact keeps.spawn (.building place .house 1) trivial h spawn

theorem addVillager (keeps : IsFounding P) {i : Nat} (h : P w)
    (added : addVillager center w i = .ok w') : P w' := by
  obtain ⟨place, spawned, spawn⟩ := of_addVillager added
  exact keeps.spawn (.villager place (villagerColor i)) trivial h spawn

theorem foundTown (keeps : IsFounding P) {houses villagers : Nat} (h : P w)
    (founded : w.foundTown means center houses villagers = .ok w') : P w' := by
  simp only [World.foundTown, Checked.bind_eq_ok_iff] at founded
  obtain ⟨⟨id, w₁⟩, built, w₂, housed, peopled⟩ := founded
  have h₁ : P w₁ := keeps.spawn (.building center .townCenter 1) trivial h built
  have h₂ : P w₂ := Checked.foldlM_induction (P := P) keeps.addHouse h₁ housed
  exact Checked.foldlM_induction (P := P) keeps.addVillager h₂ peopled

theorem scatterOne (keeps : IsFounding P) {area : Box} {f f' : Founding σ} {isPlaced : Bool}
    (h : P f.world) (tried : scatterOne means.dice area f = .ok (isPlaced, f')) :
    P f'.world := by
  rcases of_scatterOne tried with ⟨-, same⟩ | ⟨place, kind, spawned, -, spawn, -⟩
  · exact same ▸ h
  · exact keeps.spawn (.resource place kind) trivial h spawn

theorem attempts (keeps : IsFounding P) {area : Box} {outcomes : List Bool} {f f' : Founding σ}
    (h : P f.world) (made : Attempts means.dice area outcomes f f') : P f'.world := by
  induction made with
  | nil => exact h
  | cons tried _ ih => exact ih (keeps.scatterOne h tried)

theorem colonize (keeps : IsFounding P) {s : Settings} (h : P w)
    (colonized : w.colonize means s center = .ok w') : P w' := by
  simp only [World.colonize, Checked.bind_eq_ok_iff] at colonized
  obtain ⟨left, -, bottom, -, w₁, cleared, town⟩ := colonized
  have same : w.map.grid.SameSize
      (w.map.reshape left bottom s.viewport.1 s.viewport.2).grid := ⟨rfl, rfl⟩
  exact keeps.foundTown (keeps.clearTownGround (keeps.remap h same) cleared) town

theorem found (keeps : IsFounding P) {s : Settings} {source : σ} (h : P w)
    (founded : World.found means s source w = .ok w') : P w' := by
  simp only [World.found, Checked.bind_eq_ok_iff, Except.ok.injEq] at founded
  obtain ⟨area, -, town, colonized, f, scattered, rfl⟩ := founded
  obtain ⟨outcomes, made, -⟩ := attempts_of_scatter scattered
  exact keeps.attempts (keeps.colonize h colonized) made

/-- What holds of every empty world and survives founding holds of a founded match. -/
theorem generateBy (keeps : IsFounding P)
    (start : ∀ {map : Map} {capacity : Nat} {w : World}, World.onMap map capacity = .ok w → P w)
    {s : Settings} (generated : World.generateBy means s = .ok w) : P w := by
  simp only [World.generateBy, Checked.bind_eq_ok_iff] at generated
  obtain ⟨w₀, started, map, shaped, founded⟩ := generated
  exact keeps.found (keeps.remap (start started) (Map.sameSize_shape shaped)) founded

end IsFounding

theorem isFounding_inStep : IsFounding InStep where
  remap h same := ⟨h.sound, (Map.bounds_congr same).trans h.bounds, h.lookup?⟩
  spawn _ _ h spawned := h.spawnUnit spawned

end

/-! ### Reachable worlds -/

/-- The worlds that operations reach from an empty world or from a founded match. -/
inductive Reachable : World → Prop
  | onMap {map : Map} {capacity : Nat} {w : World} :
    World.onMap map capacity = .ok w → Reachable w
  | generate {s : Settings} {w : World} : World.generate s = .ok w → Reachable w
  | perform {op : Op} {reply : Option Reply} {w w' : World} :
    Reachable w → op.perform w = .ok (reply, w') → Reachable w'

/-- Roster and index are in step in every world that can be reached. -/
theorem Reachable.inStep {w : World} (h : Reachable w) : w.InStep := by
  induction h with
  | onMap started => exact .onMap started
  | generate generated =>
    exact isFounding_inStep.generateBy (fun started => .onMap started) generated
  | perform _ performed ih => exact ih.perform performed

/-- What a run reaches from a reachable world can be reached. -/
theorem Reachable.run {ops : List Op} {replies : List Reply} {w w' : World} (h : Reachable w)
    (ran : World.run ops w = .ok (replies, w')) : Reachable w' := by
  induction ops generalizing w replies with
  | nil =>
    obtain ⟨-, rfl⟩ := Prod.mk.inj (Except.ok.inj ran)
    exact h
  | cons op ops ih =>
    simp only [World.run, Checked.bind_eq_ok_iff, Except.ok.injEq, Prod.mk.injEq] at ran
    obtain ⟨⟨reply, w₁⟩, performed, ⟨rest, w₂⟩, ran, -, rfl⟩ := ran
    exact ih (h.perform performed) ran

end World

end Skirmish
