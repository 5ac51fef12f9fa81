import Mathlib.Order.Bounds.Basic
import SwitchConfigurator.Foundations.KeyedChoice
import SwitchConfigurator.Snmp.Mapping

/-!
# The port status a walk gives

What `port_status_from` makes of the walked rows: which interfaces it lists, in which order, and
which of the indices with the same name an entry is about.
-/

namespace SwitchConfigurator.Snmp

open Keyed

/-! ## Tables -/

namespace Table

variable {table table' : Table} {row : List ℕ × SnmpValue}

/-- A row is listed exactly if it is found under its index. -/
theorem mem_iter : row ∈ table.iter ↔ table.get row.1 = some row.2 := by
  simp only [iter, get, List.mem_filterMap, List.mem_insertionSort, Option.map_eq_some_iff]
  constructor
  · rintro ⟨index, -, hlookup⟩
    have hkey : row.1 = index := key_of_lookup hlookup
    rw [hkey]
    exact ⟨row, hlookup, rfl⟩
  · rintro ⟨found, hlookup, hvalue⟩
    have hfound : found = row := Prod.ext (key_of_lookup hlookup) hvalue
    rw [hfound] at hlookup
    exact ⟨row.1, mem_keys.mpr ⟨row, hlookup⟩, hlookup⟩

/-- A table is read in the order of its indices. -/
theorem pairwise_iter (table : Table) : table.iter.Pairwise (·.1 < ·.1) := by
  have hsorted : ((keys Prod.fst table).insertionSort (· ≤ ·)).Pairwise (· < ·) := by
    have hle := List.pairwise_insertionSort (· ≤ ·) (keys Prod.fst table)
    have hnodup : ((keys Prod.fst table).insertionSort (· ≤ ·)).Nodup :=
      (List.perm_insertionSort _ _).nodup_iff.mpr nodup_keys
    exact (hle.and hnodup).imp fun h => lt_of_le_of_ne h.1 h.2
  rw [iter, List.pairwise_filterMap]
  refine hsorted.imp fun {i j} hlt row hrow row' hrow' => ?_
  rw [key_of_lookup hrow, key_of_lookup hrow']
  exact hlt

/-- Only what the lookups find is read. -/
theorem iter_congr (h : table.get = table'.get) : table.iter = table'.iter := by
  have hnodup (table : Table) : table.iter.Nodup :=
    (pairwise_iter table).imp fun {row row'} hlt heq => absurd (heq ▸ hlt) (lt_irrefl _)
  have hperm : table.iter.Perm table'.iter := by
    rw [List.perm_ext_iff_of_nodup (hnodup _) (hnodup _)]
    intro row
    rw [mem_iter, mem_iter, h]
  exact hperm.eq_of_pairwise (fun row row' _ _ hlt hgt => absurd hlt (lt_asymm hgt))
    (pairwise_iter _) (pairwise_iter _)

end Table

/-- Where every OID is listed once, the order of the rows does not show in the table. -/
theorem get_byIndex_perm {rows rows' : List Row} {column : List ℕ}
    (hn : (rows.map Prod.fst).Nodup) (hperm : rows.Perm rows') :
    (byIndex rows column).get = (byIndex rows' column).get := by
  have hkeys : ((byIndex rows column).map Prod.fst).Nodup := by
    have hindex : (byIndex rows column).map Prod.fst =
        (rows.map Prod.fst).filterMap column.isPrefixOf? := by
      rw [byIndex, List.map_filterMap, List.filterMap_map]
      congr 1
      funext row
      simp [Function.comp_def]
    rw [hindex]
    refine hn.filterMap fun oid oid' index h h' => ?_
    rw [← List.append_eq_of_isPrefixOf?_eq_some h, List.append_eq_of_isPrefixOf?_eq_some h']
  funext index
  have hlookup := lookup_perm (k := index) (hperm.filterMap fun row =>
    (column.isPrefixOf? row.1).map (·, row.2)) hkeys
  exact congrArg (Option.map Prod.snd) hlookup

/-! ## The interfaces of a walk -/

/-- The name of an interface stands under an index. -/
def Carries (rows : PortStatusRows) (name : List Char) (index : List ℕ) : Prop :=
  name ≠ [] ∧ ((byIndex rows.ifName ifNameColumn).get index).bind SnmpValue.asText = some name

/-- An index whose interface is up, with the speed it runs at. -/
def HasSpeed (rows : PortStatusRows) (index : List ℕ) : Prop :=
  (byIndex rows.ifOperStatus ifOperStatusColumn).intAt index = some 1 ∧
    ∃ mbps, (byIndex rows.ifHighSpeed ifHighSpeedColumn).intAt index = some mbps ∧ 0 < mbps

/-- The interfaces in the order of their indices. -/
def interfaces (rows : PortStatusRows) : List (List ℕ × List Char) :=
  (byIndex rows.ifName ifNameColumn).iter.filterMap fun row =>
    (row.2.asText.filter (· ≠ [])).map (row.1, ·)

/-- An interface is listed by each index that carries its name. -/
theorem mem_interfaces {rows : PortStatusRows} {index : List ℕ} {name : List Char} :
    (index, name) ∈ interfaces rows ↔ Carries rows name index := by
  simp only [interfaces, List.mem_filterMap, Table.mem_iter, Option.map_eq_some_iff,
    Option.filter_eq_some_iff, decide_eq_true_eq, Prod.mk.injEq, Carries, Option.bind_eq_some_iff]
  constructor
  · rintro ⟨⟨i, value⟩, hget, name, ⟨htext, hne⟩, rfl, rfl⟩
    exact ⟨hne, value, hget, htext⟩
  · rintro ⟨hne, value, hget, htext⟩
    exact ⟨(index, value), hget, name, ⟨htext, hne⟩, rfl, rfl⟩

/-- They are listed in ascending order of their index. -/
theorem pairwise_interfaces (rows : PortStatusRows) : (interfaces rows).Pairwise (·.1 < ·.1) := by
  rw [interfaces, List.pairwise_filterMap]
  refine (Table.pairwise_iter _).imp fun {row row'} hlt entry hentry entry' hentry' => ?_
  obtain ⟨_, -, rfl⟩ := Option.map_eq_some_iff.mp hentry
  obtain ⟨_, -, rfl⟩ := Option.map_eq_some_iff.mp hentry'
  exact hlt

/-- An entry with a speed takes the place of one without. -/
theorem mergeEntry_eq (entries : List PortStatusEntry) (entry : PortStatusEntry) :
    mergeEntry entries entry =
      prefer PortStatusEntry.portId (fun entry => entry.speed.isSome) entries entry := by
  rw [mergeEntry, prefer]
  cases entries.find? (·.portId = entry.portId) with
  | none => rfl
  | some existing => simp only [Option.not_isSome]

/-- The ports are chosen among all listed interfaces. -/
theorem portStatusFrom_eq (rows : PortStatusRows) (supportsPoe : String → Bool) :
    portStatusFrom rows supportsPoe =
      preferAll PortStatusEntry.portId (fun entry => entry.speed.isSome)
        (fun interface => entryFrom rows supportsPoe interface.1 interface.2) (interfaces rows) := by
  rw [portStatusFrom, preferAll, interfaces, List.foldl_filterMap]
  congr 1
  funext entries row
  cases row.2.asText with
  | none => rfl
  | some name =>
    rw [Option.filter_some]
    by_cases h : name = []
    · simp [h]
    · simp [h, mergeEntry_eq]

/-- An entry has a speed exactly if the row has one. -/
theorem isSome_speed_entryFrom {rows : PortStatusRows} {supportsPoe : String → Bool}
    {index : List ℕ} {name : List Char} :
    (entryFrom rows supportsPoe index name).speed.isSome = true ↔ HasSpeed rows index := by
  simp only [entryFrom, HasSpeed, beq_iff_eq]
  by_cases hup : (byIndex rows.ifOperStatus ifOperStatusColumn).intAt index = some 1
  · rw [if_pos hup, Option.isSome_map, Option.isSome_iff_exists]
    simp only [Option.filter_eq_some_iff, decide_eq_true_eq, hup, true_and]
  · simp [hup]

/-- An interface that is not up shows neither a speed nor a duplex mode. -/
theorem entryFrom_not_up {rows : PortStatusRows} {supportsPoe : String → Bool} {index : List ℕ}
    {name : List Char} (h : (entryFrom rows supportsPoe index name).linkStatus ≠ some "up") :
    (entryFrom rows supportsPoe index name).speed = none ∧
      (entryFrom rows supportsPoe index name).duplex = none := by
  have hup : ((byIndex rows.ifOperStatus ifOperStatusColumn).intAt index == some 1) = false := by
    rw [Bool.eq_false_iff]
    intro hup
    refine h ?_
    have hup' := hup
    rw [beq_iff_eq, Table.intAt, Option.bind_eq_some_iff] at hup'
    obtain ⟨value, hget, -⟩ := hup'
    simp only [entryFrom, hget, hup]
    rfl
  simp only [entryFrom, hup]
  exact ⟨rfl, rfl⟩

/-! ## The assembly -/

/-- The index an entry is about: the least one with a speed, or else the least one. -/
def Represents (rows : PortStatusRows) (name : List Char) (index : List ℕ) : Prop :=
  IsLeast {i | Carries rows name i ∧ HasSpeed rows i} index ∨
    (∀ i, Carries rows name i → ¬HasSpeed rows i) ∧ IsLeast {i | Carries rows name i} index

/-- One entry for each interface, in the order of the least indices. -/
structure Assembled (rows : PortStatusRows) (supportsPoe : String → Bool)
    (entries : List PortStatusEntry) : Prop where
  once : (entries.map PortStatusEntry.portId).Nodup
  listed : ∀ name, name ∈ entries.map PortStatusEntry.portId ↔ ∃ i, Carries rows name.toList i
  ordered : (entries.map PortStatusEntry.portId).Pairwise fun name name' => ∃ i i',
    IsLeast {i | Carries rows name.toList i} i ∧ IsLeast {i | Carries rows name'.toList i} i' ∧
      i < i'
  entry : ∀ entry ∈ entries, ∃ i, Represents rows entry.portId.toList i ∧
    entry = entryFrom rows supportsPoe i entry.portId.toList
  not_up : ∀ entry ∈ entries, entry.linkStatus ≠ some "up" →
    entry.speed = none ∧ entry.duplex = none

/-- A name that is carried has a least index. -/
theorem exists_isLeast {rows : PortStatusRows} {name : List Char} {i : List ℕ}
    (h : Carries rows name i) : ∃ least, IsLeast {i | Carries rows name i} least := by
  have hsorted := pairwise_interfaces rows
  cases hfind : (interfaces rows).find? (·.2 = name) with
  | none =>
    rw [List.find?_eq_none] at hfind
    simpa using hfind _ (mem_interfaces.mpr h)
  | some interface =>
    obtain ⟨hname, earlier, later, hsplit, hearlier⟩ := List.find?_eq_some_iff_append.mp hfind
    rw [decide_eq_true_eq] at hname
    subst hname
    refine ⟨interface.1, mem_interfaces.mp (hsplit ▸ by simp), fun i hi => ?_⟩
    have hmem := mem_interfaces.mpr hi
    rw [hsplit] at hmem hsorted
    rcases List.mem_append.mp hmem with hmem | hmem
    · simpa using hearlier _ hmem
    · rcases List.mem_cons.mp hmem with heq | hmem
      · exact (congrArg Prod.fst heq).ge
      · exact ((List.pairwise_cons.mp (List.pairwise_append.mp hsorted).2.1).1 _ hmem).le

/-- A name is reported exactly if some index carries it. -/
theorem exists_interface_iff {rows : PortStatusRows} {supportsPoe : String → Bool} {name : String} :
    (∃ interface ∈ interfaces rows,
      (entryFrom rows supportsPoe interface.1 interface.2).portId = name) ↔
      ∃ i, Carries rows name.toList i := by
  constructor
  · rintro ⟨⟨i, text⟩, hmem, rfl⟩
    refine ⟨i, ?_⟩
    simpa only [entryFrom, String.toList_ofList] using mem_interfaces.mp hmem
  · rintro ⟨i, hi⟩
    exact ⟨(i, name.toList), mem_interfaces.mpr hi, String.ofList_toList⟩

/-- What is chosen is what the specification asks for. -/
theorem assembled_of_chosen {rows : PortStatusRows} {supportsPoe : String → Bool}
    {entries : List PortStatusEntry}
    (h : Chosen PortStatusEntry.portId (fun entry => entry.speed.isSome)
      (fun interface => entryFrom rows supportsPoe interface.1 interface.2)
      (fun interface interface' => interface.1 < interface'.1) (interfaces rows) entries) :
    Assembled rows supportsPoe entries where
  once := h.nodup
  listed name := by rw [h.mem_keys, exists_interface_iff]
  ordered := by
    -- the entries stand in the order of the first interface of each name
    refine h.ordered.imp_of_mem fun {name name'} _ hmem' ⟨⟨j, text⟩, hj, hname, hbefore⟩ => ?_
    have hcarries : Carries rows name.toList j := by
      rw [← hname]
      simpa only [entryFrom, String.toList_ofList] using mem_interfaces.mp hj
    obtain ⟨i', hi'⟩ := exists_interface_iff.mp ((h.mem_keys name').mp hmem')
    obtain ⟨least, hleast⟩ := exists_isLeast hcarries
    obtain ⟨least', hleast'⟩ := exists_isLeast hi'
    refine ⟨least, least', hleast, hleast', lt_of_le_of_lt (hleast.2 hcarries) ?_⟩
    exact hbefore (least', name'.toList) (mem_interfaces.mpr hleast'.1) String.ofList_toList
  entry entry hentry := by
    obtain ⟨⟨i, text⟩, hi, rfl, hfirst⟩ := h.first entry hentry
    have hbest := h.best _ hentry
    have htext : (entryFrom rows supportsPoe i text).portId.toList = text :=
      String.toList_ofList
    rw [htext]
    refine ⟨i, ?_, rfl⟩
    have hle {j : List ℕ} (hj : Carries rows text j)
        (hgood : (entryFrom rows supportsPoe i text).speed.isSome = false ∨
          (entryFrom rows supportsPoe j text).speed.isSome = true) : i ≤ j := by
      rcases hfirst (j, text) (mem_interfaces.mpr hj) rfl hgood with heq | hlt
      · exact (congrArg Prod.fst heq).ge
      · exact le_of_lt hlt
    -- among the interfaces of one name: the first with a speed, else the first at all
    by_cases hspeed : HasSpeed rows i
    · refine .inl ⟨⟨mem_interfaces.mp hi, hspeed⟩, fun j ⟨hj, hspeed'⟩ => ?_⟩
      exact hle hj (.inr (isSome_speed_entryFrom.mpr hspeed'))
    · have hslow : (entryFrom rows supportsPoe i text).speed.isSome = false := by
        rwa [Bool.eq_false_iff, ne_eq, isSome_speed_entryFrom]
      refine .inr ⟨fun j hj hspeed' => ?_, mem_interfaces.mp hi, fun j hj => hle hj (.inl hslow)⟩
      have hbad := hbest hslow (j, text) (mem_interfaces.mpr hj) rfl
      rw [Bool.eq_false_iff] at hbad
      exact hbad (isSome_speed_entryFrom.mpr hspeed')
  not_up entry hentry := by
    obtain ⟨interface, -, rfl, -⟩ := h.first entry hentry
    exact entryFrom_not_up

/-! ## The order of the rows -/

/-- The same rows in another order, no OID twice. -/
def Reordered (rows rows' : List Row) : Prop := (rows.map Prod.fst).Nodup ∧ rows.Perm rows'

structure PortStatusRows.Reordered (rows rows' : PortStatusRows) : Prop where
  ifName : Snmp.Reordered rows.ifName rows'.ifName
  ifOperStatus : Snmp.Reordered rows.ifOperStatus rows'.ifOperStatus
  ifHighSpeed : Snmp.Reordered rows.ifHighSpeed rows'.ifHighSpeed
  duplex : Snmp.Reordered rows.duplex rows'.duplex
  pethAdmin : Snmp.Reordered rows.pethAdmin rows'.pethAdmin
  pethDetection : Snmp.Reordered rows.pethDetection rows'.pethDetection

/-- Rows in another order give the same column. -/
theorem Reordered.get_eq {rows rows' : List Row} (h : Reordered rows rows') (column : List ℕ) :
    (byIndex rows column).get = (byIndex rows' column).get := get_byIndex_perm h.1 h.2

theorem Reordered.intAt_eq {rows rows' : List Row} (h : Reordered rows rows') (column : List ℕ) :
    (byIndex rows column).intAt = (byIndex rows' column).intAt := by
  funext index
  rw [Table.intAt, Table.intAt, h.get_eq]

/-- So they give the same entries. -/
theorem PortStatusRows.Reordered.entryFrom_eq {rows rows' : PortStatusRows}
    (h : rows.Reordered rows') (supportsPoe : String → Bool) :
    entryFrom rows supportsPoe = entryFrom rows' supportsPoe := by
  funext index name
  simp only [entryFrom, poeStatusOf, h.ifOperStatus.get_eq, h.ifOperStatus.intAt_eq,
    h.ifHighSpeed.intAt_eq, h.duplex.intAt_eq, h.pethAdmin.intAt_eq, h.pethDetection.intAt_eq]

/-- So they give the same ports. -/
theorem portStatusFrom_reordered {rows rows' : PortStatusRows} (h : rows.Reordered rows')
    (supportsPoe : String → Bool) :
    portStatusFrom rows' supportsPoe = portStatusFrom rows supportsPoe := by
  have hinterfaces : interfaces rows' = interfaces rows := by
    rw [interfaces, interfaces, Table.iter_congr (h.ifName.get_eq ifNameColumn)]
  rw [portStatusFrom_eq, portStatusFrom_eq, hinterfaces, h.entryFrom_eq]

/-- The port status of any rows, and of the same rows in any other order. -/
theorem portStatusFrom_assembled (rows : PortStatusRows) (supportsPoe : String → Bool) :
    Assembled rows supportsPoe (portStatusFrom rows supportsPoe) ∧
      ∀ rows', rows.Reordered rows' →
        portStatusFrom rows' supportsPoe = portStatusFrom rows supportsPoe := by
  refine ⟨?_, fun rows' h => portStatusFrom_reordered h supportsPoe⟩
  rw [portStatusFrom_eq]
  exact assembled_of_chosen (chosen_preferAll (pairwise_interfaces rows))

end SwitchConfigurator.Snmp
