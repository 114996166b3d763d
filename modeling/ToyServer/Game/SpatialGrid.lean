import ToyServer.Game.ObjectIdentity
import ToyServer.Lib.Buckets

/-!
# `SpatialGrid`

Monsters by the cell they are in when the grid is rebuilt.  The plane is wrapped around a table of
256 × 256 cells, so a cell of the table also lists monsters that are far away; `Query` tests the
distance.  Ids are looked up at the time of the query, and the distance is the one at that time: a
monster that has moved is found if it is near now and its old cell is looked at, one that has not
moved if it is near (`query_exact`).
-/

namespace ToyServer.SimpleGame

/-- `GetObject` of a table that has every object under its id. -/
structure Registry where
  getObject : Int → Option GameObject
  id_eq : ∀ {id : Int} {o : GameObject}, getObject id = some o → o.id = id

structure SpatialGrid where
  cellSize : ℚ
  /-- `monsterIds` of the cells -/
  cells : Nat → List Int

namespace SpatialGrid

def GRID_SIZE : Nat := 256

def OFFSET : Int := 1000000

/-- `static_cast<unsigned int>(c + OFFSET) % GRID_SIZE` -/
def wrap (c : Int) : Nat := ((c + OFFSET) % 2 ^ 32).toNat % GRID_SIZE

def cellIndex (cell : Int × Int) : Nat := wrap cell.1 * GRID_SIZE + wrap cell.2

section
variable (g : SpatialGrid)

def cellOf (v : ℚ) : Int := ⌊v / g.cellSize⌋

def getIndex (x y : ℚ) : Nat := cellIndex (g.cellOf x, g.cellOf y)

def isListed (o : GameObject) : Bool := o.type == .monster && !o.isDead

def rebuild (objects : List GameObject) : SpatialGrid :=
  { g with
    cells :=
    Buckets.fill (fun o => g.getIndex o.x o.y) (·.id) (fun _ => []) (objects.filter isListed) }

/-- The cells that a query looks at, in its order. -/
def window (x y radius : ℚ) : List (Int × Int) :=
  let minX := g.cellOf (x - radius)
  let maxX := g.cellOf (x + radius)
  let minY := g.cellOf (y - radius)
  let maxY := g.cellOf (y + radius)
  (Int.range minX (maxX + 1)).flatMap fun cx => (Int.range minY (maxY + 1)).map fun cy => (cx, cy)

def isWithin (x y radius : ℚ) (o : GameObject) : Bool :=
  let dx := o.x - x
  let dy := o.y - y
  decide (dx * dx + dy * dy ≤ radius * radius)

def query (x y radius : ℚ) (objMgr : Registry) : List GameObject :=
  (Buckets.gather g.cells ((g.window x y radius).map cellIndex)).filterMap fun id =>
    (objMgr.getObject id).filter (isWithin x y radius)

end

/-! ## Cells -/

theorem wrap_inj {c c' : Int} (hlt : c - c' < 256) (hlt' : c' - c < 256)
    (h : wrap c = wrap c') : c = c' := by
  unfold wrap OFFSET GRID_SIZE at h
  omega

theorem cellIndex_eq {cell cell' : Int × Int} (h : cellIndex cell = cellIndex cell') :
    wrap cell.1 = wrap cell'.1 ∧ wrap cell.2 = wrap cell'.2 := by
  have hlt : ∀ c, wrap c < 256 := fun c => Nat.mod_lt _ (by decide)
  have h1 := hlt cell.2
  have h2 := hlt cell'.2
  unfold cellIndex GRID_SIZE at h
  omega

variable {g : SpatialGrid} {x y radius : ℚ}

theorem mem_window {cell : Int × Int} : cell ∈ g.window x y radius ↔
    (g.cellOf (x - radius) ≤ cell.1 ∧ cell.1 ≤ g.cellOf (x + radius)) ∧
      g.cellOf (y - radius) ≤ cell.2 ∧ cell.2 ≤ g.cellOf (y + radius) := by
  obtain ⟨cx, cy⟩ := cell
  simp only [window, List.mem_flatMap, List.mem_map, Int.mem_range_iff, Int.lt_add_one_iff,
    Prod.mk.injEq]
  constructor
  · rintro ⟨_, hx, _, hy, rfl, rfl⟩
    exact ⟨hx, hy⟩
  · rintro ⟨hx, hy⟩
    exact ⟨cx, hx, cy, hy, rfl, rfl⟩

theorem nodup_window (g : SpatialGrid) (x y radius : ℚ) : (g.window x y radius).Nodup := by
  have hrange : ∀ a b : Int, (Int.range a b).Nodup := fun a b =>
    (List.nodup_range).map fun i j hij => by simpa using hij
  refine List.nodup_flatMap.mpr ⟨fun cx _ => (hrange _ _).map fun a b hab =>
    (Prod.mk.injEq ..).mp hab |>.2, ?_⟩
  refine (hrange _ _).imp fun {cx cx'} hne cell hcell hcell' => hne ?_
  obtain ⟨_, _, rfl⟩ := List.mem_map.mp hcell
  obtain ⟨_, _, heq⟩ := List.mem_map.mp hcell'
  exact ((Prod.mk.injEq ..).mp heq).1.symm

/-- The window has at most 256 cells on each axis. -/
def Spans (g : SpatialGrid) (x y radius : ℚ) : Prop :=
  g.cellOf (x + radius) - g.cellOf (x - radius) < 256 ∧
    g.cellOf (y + radius) - g.cellOf (y - radius) < 256

instance (g : SpatialGrid) (x y radius : ℚ) : Decidable (g.Spans x y radius) :=
  inferInstanceAs (Decidable (_ ∧ _))

theorem nodup_cells (h : g.Spans x y radius) : ((g.window x y radius).map cellIndex).Nodup := by
  refine (nodup_window g x y radius).map_on fun cell hcell cell' hcell' heq => ?_
  obtain ⟨⟨hx0, hx1⟩, hy0, hy1⟩ := mem_window.mp hcell
  obtain ⟨⟨hx0', hx1'⟩, hy0', hy1'⟩ := mem_window.mp hcell'
  obtain ⟨hx, hy⟩ := cellIndex_eq heq
  obtain ⟨hspanX, hspanY⟩ := h
  exact Prod.ext (wrap_inj (by omega) (by omega) hx) (wrap_inj (by omega) (by omega) hy)

theorem cellOf_between (hc : 0 < g.cellSize) {v c : ℚ} (h : |v - c| ≤ radius) :
    g.cellOf (c - radius) ≤ g.cellOf v ∧ g.cellOf v ≤ g.cellOf (c + radius) := by
  obtain ⟨hlo, hhi⟩ := abs_le.mp h
  constructor
  · exact Int.floor_le_floor (div_le_div_of_nonneg_right (by linarith) hc.le)
  · exact Int.floor_le_floor (div_le_div_of_nonneg_right (by linarith) hc.le)

theorem cell_mem_window (hc : 0 < g.cellSize) {o : GameObject} (hr : 0 ≤ radius)
    (h : isWithin x y radius o = true) : (g.cellOf o.x, g.cellOf o.y) ∈ g.window x y radius := by
  have hdist : (o.x - x) * (o.x - x) + (o.y - y) * (o.y - y) ≤ radius * radius :=
    of_decide_eq_true h
  have hdx : |o.x - x| ≤ radius := abs_le_of_sq_le_sq (by nlinarith [mul_self_nonneg (o.y - y)]) hr
  have hdy : |o.y - y| ≤ radius := abs_le_of_sq_le_sq (by nlinarith [mul_self_nonneg (o.x - x)]) hr
  exact mem_window.mpr ⟨cellOf_between hc hdx, cellOf_between hc hdy⟩

/-! ## Queries -/

variable {objects : List GameObject} {objMgr : Registry}

/-- The object was a live monster when the grid was rebuilt, and is now `o`. -/
def Keeps (objects : List GameObject) (objMgr : Registry) (a o : GameObject) : Prop :=
  (a ∈ objects ∧ isListed a = true) ∧ objMgr.getObject a.id = some o

/-- What a query finds: the objects that are near now and were in a cell then that shares its place
with one of the window. -/
theorem mem_query {o : GameObject} : o ∈ (g.rebuild objects).query x y radius objMgr ↔
    ∃ a, Keeps objects objMgr a o ∧ isWithin x y radius o = true ∧
      ∃ cell ∈ g.window x y radius, cellIndex cell = g.getIndex a.x a.y := by
  simp only [query, rebuild, List.mem_filterMap, Buckets.mem_gather, Option.filter_eq_some_iff,
    List.mem_filter, List.mem_map, Keeps]
  constructor
  · rintro ⟨_, ⟨a, ha, hcell, rfl⟩, ho, hnear⟩
    exact ⟨a, ⟨ha, ho⟩, hnear, hcell⟩
  · rintro ⟨a, ⟨ha, ho⟩, hnear, hcell⟩
    exact ⟨a.id, ⟨a, ha, hcell, rfl⟩, ho, hnear⟩

theorem mem_query_of_still (hc : 0 < g.cellSize) (hr : 0 ≤ radius) {a o : GameObject}
    (hkeep : Keeps objects objMgr a o) (hx : o.x = a.x) (hy : o.y = a.y)
    (hnear : isWithin x y radius o = true) : o ∈ (g.rebuild objects).query x y radius objMgr := by
  refine mem_query.mpr ⟨a, hkeep, hnear, (g.cellOf o.x, g.cellOf o.y),
    cell_mem_window hc hr hnear, ?_⟩
  rw [hx, hy]
  rfl

theorem nodup_query (hids : (objects.map (·.id)).Nodup) (hspan : g.Spans x y radius) :
    (((g.rebuild objects).query x y radius objMgr).map (·.id)).Nodup := by
  have hlisted : ((objects.filter isListed).map (·.id)).Nodup :=
    hids.sublist (List.filter_sublist.map _)
  have hgather :
      (Buckets.gather (g.rebuild objects).cells ((g.window x y radius).map cellIndex)).Nodup :=
    Buckets.nodup_gather (nodup_cells hspan) hlisted
  unfold query
  rw [List.map_filterMap]
  refine hgather.filterMap fun id id' o ho ho' => ?_
  -- an object that is found under an id has it
  obtain ⟨b, hb, rfl⟩ := Option.map_eq_some_iff.mp (Option.mem_def.mp ho)
  obtain ⟨b', hb', heq⟩ := Option.map_eq_some_iff.mp (Option.mem_def.mp ho')
  rw [← objMgr.id_eq (Option.filter_eq_some_iff.mp hb).1,
    ← objMgr.id_eq (Option.filter_eq_some_iff.mp hb').1]
  exact heq.symm

/-- **Queries are exact** at the positions of the time of the query.  What is found, each object
once, are the monsters that were listed, are near now and were in a cell that has its place in the
table with one of the window; for a monster that has not moved this is to be near. -/
theorem query_exact (g : SpatialGrid) (objects : List GameObject) (objMgr : Registry)
    (x y radius : ℚ) (hc : 0 < g.cellSize) (hids : (objects.map (·.id)).Nodup)
    (hspan : g.Spans x y radius) (hr : 0 ≤ radius) :
    (((g.rebuild objects).query x y radius objMgr).map (·.id)).Nodup ∧
      (∀ o, o ∈ (g.rebuild objects).query x y radius objMgr ↔
        ∃ a, Keeps objects objMgr a o ∧
          (o.x - x) * (o.x - x) + (o.y - y) * (o.y - y) ≤ radius * radius ∧
          ∃ cell ∈ g.window x y radius, cellIndex cell = g.getIndex a.x a.y) ∧
      ∀ a o, Keeps objects objMgr a o → o.x = a.x ∧ o.y = a.y →
        (o ∈ (g.rebuild objects).query x y radius objMgr ↔
          (o.x - x) * (o.x - x) + (o.y - y) * (o.y - y) ≤ radius * radius) := by
  have hmem (o : GameObject) : o ∈ (g.rebuild objects).query x y radius objMgr ↔
      ∃ a, Keeps objects objMgr a o ∧
        (o.x - x) * (o.x - x) + (o.y - y) * (o.y - y) ≤ radius * radius ∧
        ∃ cell ∈ g.window x y radius, cellIndex cell = g.getIndex a.x a.y := by
    rw [mem_query]
    simp only [isWithin, decide_eq_true_eq]
  refine ⟨nodup_query hids hspan, hmem, fun a o hkeep hstill => ⟨fun ho => ?_, fun hnear => ?_⟩⟩
  · obtain ⟨-, -, hnear, -⟩ := (hmem o).mp ho
    exact hnear
  · exact mem_query_of_still hc hr hkeep hstill.1 hstill.2 (decide_eq_true hnear)

def standing (id : Int) (x y : ℚ) : GameObject := { GameObject.make id .monster with x, y }

def tableOf (objects : List GameObject) : Registry where
  getObject id := objects.find? fun o => o.id == id
  id_eq := fun h => by simpa using List.find?_some h

def coarse : SpatialGrid := ⟨100, fun _ => []⟩

/-- A monster on the other side of the origin, one too far away, and one 25600 away that has the
place of the first. -/
theorem query_exact_wrapped :
    standing 1 (-50) 50 ∈
        (coarse.rebuild [standing 1 (-50) 50, standing 2 250 50, standing 3 25550 50]).query 0 0 90
          (tableOf [standing 1 (-50) 50, standing 2 250 50, standing 3 25550 50]) ∧
      standing 3 25550 50 ∉
        (coarse.rebuild [standing 1 (-50) 50, standing 2 250 50, standing 3 25550 50]).query 0 0 90
          (tableOf [standing 1 (-50) 50, standing 2 250 50, standing 3 25550 50]) := by
  have h := query_exact coarse [standing 1 (-50) 50, standing 2 250 50, standing 3 25550 50]
    (tableOf [standing 1 (-50) 50, standing 2 250 50, standing 3 25550 50]) 0 0 90
    (by decide +kernel) (by decide +kernel) (by decide +kernel) (by decide)
  constructor
  · exact (h.2.2 _ _ ⟨⟨by simp, rfl⟩, rfl⟩ ⟨rfl, rfl⟩).mpr (by decide +kernel)
  · intro hmem
    exact absurd ((h.2.2 _ _ ⟨⟨by simp, rfl⟩, rfl⟩ ⟨rfl, rfl⟩).mp hmem) (by decide +kernel)

/-- A monster that has moved is found as well. -/
theorem query_finds_moved :
    ∃ o ∈ (coarse.rebuild [standing 1 10 10]).query 10 10 50 (tableOf [standing 1 20 10]),
      ¬∃ a, Keeps [standing 1 10 10] (tableOf [standing 1 20 10]) a o ∧ (o.x = a.x ∧ o.y = a.y) ∧
        (o.x - 10) * (o.x - 10) + (o.y - 10) * (o.y - 10) ≤ 50 * 50 := by
  refine ⟨standing 1 20 10, ?_, ?_⟩
  · refine mem_query.mpr
      ⟨standing 1 10 10, ⟨⟨by simp, rfl⟩, rfl⟩, by decide +kernel, (0, 0), ?_, by decide +kernel⟩
    decide +kernel
  · rintro ⟨a, ⟨⟨ha, -⟩, -⟩, ⟨hx, -⟩, -⟩
    rw [List.mem_singleton.mp ha] at hx
    exact absurd hx (by decide +kernel)

end SpatialGrid

end ToyServer.SimpleGame
