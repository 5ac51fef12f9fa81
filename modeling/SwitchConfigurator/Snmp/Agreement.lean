import SwitchConfigurator.Snmp.Console
import SwitchConfigurator.Snmp.PortAssembly

/-!
# SNMP and the console agree

The rows of the agent and the text of the console show the same ports and the same MACs. Only the
agent lists the interfaces of VLANs and the state of the power, only the console the VLAN of a MAC.
-/

namespace SwitchConfigurator.Snmp

open Fortiswitch Keyed ReferenceSwitch

/-! ## Columns -/

section Columns

variable {α : Type} {entries : List α} {column : List ℕ} {index : α → List ℕ}
variable {value : α → Option SnmpValue} {i : List ℕ} {v : SnmpValue} {a : α}

theorem byIndex_columnRows : byIndex (columnRows entries column index value) column =
    entries.filterMap fun a => (value a).map (index a, ·) := by
  rw [byIndex, columnRows, List.filterMap_filterMap]
  congr 1
  funext a
  cases value a with
  | none => rfl
  | some v =>
    have hprefix : column.isPrefixOf? (column ++ index a) = some (index a) :=
      List.isPrefixOf?_eq_some_iff_append_eq.mpr rfl
    rw [Option.map_some, Option.bind_some, hprefix]
    rfl

/-- A column has the values of its rows. -/
theorem get_columnRows_iff (hn : (entries.map index).Nodup) :
    (byIndex (columnRows entries column index value) column).get i = some v ↔
      ∃ a ∈ entries, index a = i ∧ value a = some v := by
  rw [byIndex_columnRows, Table.get, Option.map_eq_some_iff]
  have hmem {row : List ℕ × SnmpValue}
      (h : row ∈ entries.filterMap fun a => (value a).map (index a, ·)) :
      ∃ a ∈ entries, index a = row.1 ∧ value a = some row.2 := by
    obtain ⟨a, ha, hrow⟩ := List.mem_filterMap.mp h
    obtain ⟨v, hv, rfl⟩ := Option.map_eq_some_iff.mp hrow
    exact ⟨a, ha, rfl, hv⟩
  constructor
  · rintro ⟨row, hlookup, rfl⟩
    obtain ⟨a, ha, hindex, hvalue⟩ := hmem (mem_of_lookup hlookup)
    exact ⟨a, ha, hindex.trans (key_of_lookup hlookup), hvalue⟩
  · rintro ⟨a, ha, rfl, hvalue⟩
    have hrow : (index a, v) ∈ entries.filterMap fun a => (value a).map (index a, ·) :=
      List.mem_filterMap.mpr ⟨a, ha, by rw [hvalue]; rfl⟩
    obtain ⟨row, hlookup⟩ := exists_lookup_of_mem Prod.fst hrow
    refine ⟨row, hlookup, ?_⟩
    obtain ⟨a', ha', hindex, hvalue'⟩ := hmem (mem_of_lookup hlookup)
    -- no other row has this index
    have hsame : a' = a :=
      List.inj_on_of_nodup_map hn ha' ha (hindex.trans (key_of_lookup hlookup))
    rw [hsame, hvalue] at hvalue'
    exact (Option.some.inj hvalue').symm

/-- A column has the value of each entry under its index. -/
theorem get_columnRows (hn : (entries.map index).Nodup) (ha : a ∈ entries) :
    (byIndex (columnRows entries column index value) column).get (index a) = value a := by
  cases hvalue : value a with
  | some v => exact (get_columnRows_iff hn).mpr ⟨a, ha, rfl, hvalue⟩
  | none =>
    rw [Option.eq_none_iff_forall_ne_some]
    intro v hv
    obtain ⟨a', ha', hindex, hvalue'⟩ := (get_columnRows_iff hn).mp hv
    rw [List.inj_on_of_nodup_map hn ha' ha hindex, hvalue] at hvalue'
    cases hvalue'

end Columns

/-! ## Names as octets -/

theorem toNat_lt_of_isNameChar {c : Char} (h : isNameChar c = true) : c.toNat < 128 := by
  rcases Bool.or_eq_true_iff.mp h with halnum | hother
  · have hcodes := toNat_of_isAlphanum halnum
    omega
  · have hmem : c ∈ "-_./".toList := of_decide_eq_true hother
    clear h hother
    revert c
    decide

/-- An ASCII character is read as itself. -/
theorem firstChar_ascii {c : Char} (h : c.toNat < 128) (rest : List UInt8) :
    firstChar (UInt8.ofNat c.toNat) rest = (c, 0) := by
  have hnat : (UInt8.ofNat c.toNat).toNat = c.toNat :=
    UInt8.toNat_ofNat_of_lt' (h.trans (by decide))
  have hlt : UInt8.ofNat c.toNat < 0x80 := by
    rw [UInt8.lt_iff_toNat_lt, hnat]
    exact h
  unfold firstChar
  rw [if_pos hlt, hnat, Char.ofNat_toNat]

/-- The octets of a name are read as the name. -/
theorem asText_nameOctets (n : Name) :
    (SnmpValue.octets (nameOctets n.chars)).asText = some n.chars := by
  have hread {chars : List Char} (h : ∀ c ∈ chars, c.toNat < 128) :
      lossyFrom 0 (nameOctets chars) = chars := by
    induction chars with
    | nil => rfl
    | cons c chars ih =>
      obtain ⟨hc, hchars⟩ := List.forall_mem_cons.mp h
      rw [nameOctets, List.map_cons, lossyFrom, firstChar_ascii hc]
      exact congrArg (c :: ·) (ih hchars)
  have hlast : n.chars.rdropWhile (· == '\u0000') = n.chars := by
    rw [List.rdropWhile_eq_self_iff]
    intro hne hnul
    have hvalid := n.valid _ (List.getLast_mem hne)
    rw [eq_of_beq hnul] at hvalid
    exact absurd hvalid (by decide)
  rw [SnmpValue.asText, fromUtf8Lossy, hread fun c hc => toNat_lt_of_isNameChar (n.valid c hc),
    hlast]

/-! ## Ports -/

/-- An entry without the state of the power, which the console does not show. -/
def withoutPoe (entry : PortStatusEntry) : PortStatusEntry := { entry with poeStatus := none }

/-- What the agent shows of a listing. -/
def Listing.entry (l : Listing) : PortStatusEntry where
  portId := String.ofList l.name
  linkStatus := some (if l.operStatus = 1 then "up" else "down")
  speed := if l.operStatus = 1 then (l.highSpeed.filter (0 < ·)).map toString else none
  duplex :=
    if l.operStatus = 1 then
      if l.duplex = some 3 then some "full"
      else if l.duplex = some 2 then some "half"
      else none
    else none

section Ports

variable {s : ReferenceSwitch} {supportsPoe : String → Bool} {i : Interface} {l : Listing}
variable {entry : PortStatusEntry} {index : List ℕ} {name : List Char}

/-- All listings of an interface have its name. -/
theorem name_listings (i : Interface) : ∀ l ∈ i.listings, l.name = i.name.chars := by
  rw [Interface.listings, List.forall_mem_cons, List.forall_mem_map]
  refine ⟨?_, fun _ _ => rfl⟩
  cases i.link with
  | down idle => rfl
  | up speed running duplex => rfl

/-- Every listed name is an allowed one. -/
theorem exists_name (hl : l ∈ s.listings) : ∃ n : Name, l.name = n.chars := by
  rcases List.mem_append.mp hl with hl | hl
  · obtain ⟨i, -, hl⟩ := List.mem_flatMap.mp hl
    exact ⟨i.name, name_listings i l hl⟩
  · obtain ⟨v, -, rfl⟩ := List.mem_map.mp hl
    exact ⟨v.name, rfl⟩

/-- No index is listed twice. -/
theorem nodup_indices (s : ReferenceSwitch) : (s.listings.map fun l => [l.index]).Nodup := by
  have hmap : (s.listings.map fun l => [l.index]) = (s.listings.map Listing.index).map ([·]) := by
    rw [List.map_map]
    rfl
  rw [hmap]
  exact s.indices_nodup.map fun _ _ h => List.head_eq_of_cons_eq h

/-- The interface tables have the values of a listing under its index. -/
theorem entryFrom_listing (hl : l ∈ s.listings) :
    withoutPoe (entryFrom s.portStatusRows supportsPoe [l.index] l.name) = l.entry := by
  have hcolumn (column : List ℕ) (value : Listing → Option SnmpValue) :
      (byIndex (columnRows s.listings column (fun l => [l.index]) value) column).get [l.index] =
        value l := get_columnRows (nodup_indices s) hl
  have hoper : (byIndex s.portStatusRows.ifOperStatus ifOperStatusColumn).get [l.index] =
      some (.integer l.operStatus) := hcolumn _ _
  have hspeed : (byIndex s.portStatusRows.ifHighSpeed ifHighSpeedColumn).intAt [l.index] =
      l.highSpeed := by
    have hget : (byIndex s.portStatusRows.ifHighSpeed ifHighSpeedColumn).get [l.index] =
        l.highSpeed.map .integer := hcolumn _ _
    rw [Table.intAt, hget]
    cases l.highSpeed <;> rfl
  have hduplex : (byIndex s.portStatusRows.duplex dot3DuplexStatusColumn).intAt [l.index] =
      l.duplex := by
    have hget : (byIndex s.portStatusRows.duplex dot3DuplexStatusColumn).get [l.index] =
        l.duplex.map .integer := hcolumn _ _
    rw [Table.intAt, hget]
    cases l.duplex <;> rfl
  have hup : (byIndex s.portStatusRows.ifOperStatus ifOperStatusColumn).intAt [l.index] =
      some l.operStatus := by
    rw [Table.intAt, hoper]
    rfl
  rw [withoutPoe, entryFrom, Listing.entry]
  dsimp only
  rw [hoper, hspeed, hduplex, hup]
  by_cases hcase : l.operStatus = 1
  · simp [hcase]
  · simp [hcase]

/-- A name is carried by its listings. -/
theorem carries_iff : Carries s.portStatusRows name index ↔
    ∃ l ∈ s.listings, [l.index] = index ∧ l.name = name := by
  have htext {l : Listing} (hl : l ∈ s.listings) :
      (SnmpValue.octets (nameOctets l.name)).asText = some l.name := by
    obtain ⟨n, hn⟩ := exists_name hl
    rw [hn, asText_nameOctets]
  have hget {v : SnmpValue} :
      (byIndex s.portStatusRows.ifName ifNameColumn).get index = some v ↔
        ∃ l ∈ s.listings, [l.index] = index ∧ some (.octets (nameOctets l.name)) = some v :=
    get_columnRows_iff (nodup_indices s)
  rw [Carries, Option.bind_eq_some_iff]
  constructor
  · rintro ⟨-, v, hv, hname⟩
    obtain ⟨l, hl, hindex, hoctets⟩ := hget.mp hv
    obtain rfl := Option.some.inj hoctets
    rw [htext hl] at hname
    exact ⟨l, hl, hindex, Option.some.inj hname⟩
  · rintro ⟨l, hl, hindex, rfl⟩
    obtain ⟨n, hn⟩ := exists_name hl
    refine ⟨hn ▸ n.nonempty, _, hget.mpr ⟨l, hl, hindex, rfl⟩, htext hl⟩

/-- Which listings have a speed. -/
theorem hasSpeed_iff (hl : l ∈ s.listings) : HasSpeed s.portStatusRows [l.index] ↔
    l.entry.speed.isSome = true := by
  have hspeed : (entryFrom s.portStatusRows (fun _ => false) [l.index] l.name).speed =
      l.entry.speed := congrArg PortStatusEntry.speed (@entryFrom_listing s (fun _ => false) l hl)
  rw [← hspeed]
  exact isSome_speed_entryFrom.symm

/-- One that is not is reported without. -/
theorem entry_idle (idle : Idle) (index : ℕ) (name : List Char) :
    (idle.listing index name).entry =
      { portId := String.ofList name, linkStatus := some "down" } := by
  have hdown : (idle.listing index name).operStatus ≠ 1 := idle.notUp
  rw [Listing.entry, if_neg hdown, if_neg hdown, if_neg hdown]
  rfl

/-- A link that is up is reported with its speed and duplex. -/
theorem entry_up {speed : ℕ} (running : 0 < speed) (duplex : Duplex) (index : ℕ)
    (name : List Char) :
    ((Link.up speed running duplex).listing index name).entry =
      { portId := String.ofList name
        linkStatus := some "up"
        speed := some (toString speed)
        duplex := some (String.ofList duplex.text) } := by
  have hpositive : (some (speed : ℤ)).filter (0 < ·) = some (speed : ℤ) := by
    rw [Option.filter_some, if_pos (by simpa using running)]
  have htext : toString (speed : ℤ) = toString speed := rfl
  cases duplex with
  | full => simp [Listing.entry, Link.listing, Duplex.code, Duplex.text, hpositive, ← htext]
  | half => simp [Listing.entry, Link.listing, Duplex.code, Duplex.text, hpositive, ← htext]

/-- The first listing of an interface shows what the console shows. -/
theorem entry_listing (i : Interface) :
    (i.link.listing i.ifIndex i.name.chars).entry = i.consoleEntry := by
  rw [Interface.consoleEntry]
  cases i.link with
  | down idle => exact entry_idle idle _ _
  | up speed running duplex => exact entry_up running duplex _ _

theorem mem_listings (hi : i ∈ s.interfaces) (hl : l ∈ i.listings) : l ∈ s.listings :=
  List.mem_append_left _ (List.mem_flatMap.mpr ⟨i, hi, hl⟩)

/-- The listings that carry the name of an interface are its own. -/
theorem mem_listings_of_name (hi : i ∈ s.interfaces) (hl : l ∈ s.listings)
    (hname : l.name = i.name.chars) : l ∈ i.listings := by
  obtain ⟨hports, -, hapart⟩ := List.nodup_append.mp s.names_nodup
  rcases List.mem_append.mp hl with hmem | hmem
  · obtain ⟨i', hi', hmem⟩ := List.mem_flatMap.mp hmem
    have hsame : i'.name.chars = i.name.chars := (name_listings i' l hmem).symm.trans hname
    obtain rfl : i' = i := List.inj_on_of_nodup_map hports hi' hi hsame
    exact hmem
  · obtain ⟨v, hv, rfl⟩ := List.mem_map.mp hmem
    exact absurd hname.symm (hapart _ (List.mem_map_of_mem hi) _ (List.mem_map_of_mem hv))

/-- What is assembled of the rows of an interface is what the console shows. -/
theorem withoutPoe_entry (hi : i ∈ s.interfaces)
    (hentry : entry ∈ portStatusFrom s.portStatusRows supportsPoe)
    (hname : entry.portId = String.ofList i.name.chars) : withoutPoe entry = i.consoleEntry := by
  have hassembled := (portStatusFrom_assembled s.portStatusRows supportsPoe).1
  obtain ⟨index, hrepresents, heq⟩ := hassembled.entry entry hentry
  rw [hname, String.toList_ofList] at hrepresents heq
  have hmain : i.link.listing i.ifIndex i.name.chars ∈ s.listings :=
    mem_listings hi List.mem_cons_self
  obtain ⟨l, hl, rfl, hcarried⟩ : ∃ l ∈ s.listings, [l.index] = index ∧ l.name = i.name.chars := by
    refine carries_iff.mp ?_
    rcases hrepresents with h | ⟨-, h⟩
    · exact h.1.1
    · exact h.1
  have hshown : withoutPoe entry = l.entry := by
    rw [heq, ← hcarried, entryFrom_listing hl]
  have hown := mem_listings_of_name hi hl hcarried
  rw [hshown, ← entry_listing]
  cases hlink : i.link with
  | down idle =>
    rw [Interface.listings, hlink] at hown
    rcases List.mem_cons.mp hown with rfl | hown
    · rfl
    · -- neither listing is up
      obtain ⟨other, -, rfl⟩ := List.mem_map.mp hown
      exact (entry_idle other.2 _ _).trans (entry_idle idle _ _).symm
  | up speed running duplex =>
    have hspeed : l.entry.speed.isSome = true := by
      refine (hasSpeed_iff hl).mp ?_
      rcases hrepresents with h | ⟨hslow, -⟩
      · exact h.1.2
      · refine absurd ((hasSpeed_iff hmain).mpr ?_) (hslow _ (carries_iff.mpr ⟨_, hmain, rfl, ?_⟩))
        · rw [hlink, entry_up]
          rfl
        · exact name_listings i _ List.mem_cons_self
    rw [Interface.listings, hlink] at hown
    rcases List.mem_cons.mp hown with rfl | hown
    · rfl
    · -- the second listing has no speed
      obtain ⟨other, -, rfl⟩ := List.mem_map.mp hown
      rw [entry_idle] at hspeed
      cases hspeed

/-- The names of the VLAN interfaces. -/
def vlanNames (s : ReferenceSwitch) : List String :=
  s.vlanInterfaces.map fun v => String.ofList v.name.chars

/-- Each entry is about a port or about the interface of a VLAN. -/
theorem exists_listed : (∃ entry ∈ portStatusFrom s.portStatusRows supportsPoe,
    entry.portId = String.ofList name) ↔
      (∃ i ∈ s.interfaces, i.name.chars = name) ∨ ∃ v ∈ s.vlanInterfaces, v.name.chars = name := by
  have hassembled := (portStatusFrom_assembled s.portStatusRows supportsPoe).1
  have hlisted := hassembled.listed (String.ofList name)
  rw [List.mem_map, String.toList_ofList] at hlisted
  rw [hlisted]
  simp only [carries_iff]
  constructor
  · rintro ⟨_, l, hl, -, rfl⟩
    rcases List.mem_append.mp hl with hl | hl
    · obtain ⟨i, hi, hl⟩ := List.mem_flatMap.mp hl
      exact .inl ⟨i, hi, (name_listings i l hl).symm⟩
    · obtain ⟨v, hv, rfl⟩ := List.mem_map.mp hl
      exact .inr ⟨v, hv, rfl⟩
  · rintro (⟨i, hi, rfl⟩ | ⟨v, hv, rfl⟩)
    · exact ⟨_, _, mem_listings hi List.mem_cons_self, rfl, name_listings i _ List.mem_cons_self⟩
    · exact ⟨_, _, List.mem_append_right _ (List.mem_map_of_mem hv), rfl, rfl⟩

/-- The console reports an interface under its name. -/
theorem portId_consoleEntry (i : Interface) :
    i.consoleEntry.portId = String.ofList i.name.chars := by
  rw [Interface.consoleEntry]
  cases i.link with
  | down idle => rfl
  | up speed running duplex => rfl

/-- The names of VLAN interfaces are those that SNMP lists beside the ports. -/
theorem mem_vlanNames : String.ofList name ∈ vlanNames s ↔
    ∃ v ∈ s.vlanInterfaces, v.name.chars = name := by
  rw [vlanNames, List.mem_map]
  exact exists_congr fun v => and_congr_right fun _ => String.ofList_inj

/-- A port is no VLAN interface. -/
theorem not_mem_vlanNames (hi : i ∈ s.interfaces) :
    String.ofList i.name.chars ∉ vlanNames s := by
  rw [mem_vlanNames]
  rintro ⟨v, hv, hname⟩
  obtain ⟨-, -, hapart⟩ := List.nodup_append.mp s.names_nodup
  exact hapart _ (List.mem_map_of_mem hi) _ (List.mem_map_of_mem hv) hname.symm

/-- No port is reported twice. -/
theorem nodup_filter (p : PortStatusEntry → Bool) :
    (((portStatusFrom s.portStatusRows supportsPoe).filter p).map PortStatusEntry.portId).Nodup :=
      by
  have hassembled := (portStatusFrom_assembled s.portStatusRows supportsPoe).1
  exact hassembled.once.sublist (List.filter_sublist.map _)

/-- The entries of the ports are those of the console. -/
theorem ports_agree (s : ReferenceSwitch) (supportsPoe : String → Bool) :
    (((portStatusFrom s.portStatusRows supportsPoe).filter (·.portId ∉ vlanNames s)).map
      withoutPoe).Perm (parsePortStatus s.physicalPortText) := by
  obtain ⟨hports, -, -⟩ := List.nodup_append.mp s.names_nodup
  rw [parsePortStatus_physicalPortText, List.perm_ext_iff_of_nodup]
  · intro entry
    rw [List.mem_map, List.mem_map]
    constructor
    · rintro ⟨found, hfound, rfl⟩
      obtain ⟨hfound, hport⟩ := List.mem_filter.mp hfound
      rw [decide_eq_true_iff] at hport
      obtain ⟨name, hname⟩ : ∃ name, found.portId = String.ofList name :=
        ⟨found.portId.toList, String.ofList_toList.symm⟩
      rcases exists_listed.mp ⟨found, hfound, hname⟩ with ⟨i, hi, rfl⟩ | hvlan
      · exact ⟨i, hi, (withoutPoe_entry hi hfound hname).symm⟩
      · rw [hname, mem_vlanNames] at hport
        exact absurd hvlan hport
    · rintro ⟨i, hi, rfl⟩
      obtain ⟨found, hfound, hname⟩ := (@exists_listed s supportsPoe _).mpr (.inl ⟨i, hi, rfl⟩)
      refine ⟨found, List.mem_filter.mpr ⟨hfound, ?_⟩, withoutPoe_entry hi hfound hname⟩
      rw [decide_eq_true_iff, hname]
      exact not_mem_vlanNames hi
  · refine List.Nodup.of_map PortStatusEntry.portId ?_
    rw [List.map_map]
    exact nodup_filter _
  · refine List.Nodup.of_map PortStatusEntry.portId ?_
    have hids : (s.interfaces.map Interface.consoleEntry).map PortStatusEntry.portId =
        (s.interfaces.map fun i => i.name.chars).map String.ofList := by
      rw [List.map_map, List.map_map]
      exact List.map_congr_left fun i _ => portId_consoleEntry i
    rw [hids]
    exact hports.map fun _ _ h => String.ofList_inj.mp h

/-- The other entries are those of the VLAN interfaces, one for each. -/
theorem vlanInterfaces_listed (s : ReferenceSwitch) (supportsPoe : String → Bool) :
    (((portStatusFrom s.portStatusRows supportsPoe).filter (·.portId ∈ vlanNames s)).map
      PortStatusEntry.portId).Perm (vlanNames s) := by
  obtain ⟨-, hvlans, -⟩ := List.nodup_append.mp s.names_nodup
  rw [List.perm_ext_iff_of_nodup (nodup_filter _)]
  · intro id
    simp only [List.mem_map, List.mem_filter, decide_eq_true_iff]
    constructor
    · rintro ⟨entry, ⟨-, hvlan⟩, rfl⟩
      exact hvlan
    · intro hid
      obtain ⟨v, hv, rfl⟩ := List.mem_map.mp hid
      obtain ⟨entry, hentry, hname⟩ := (@exists_listed s supportsPoe _).mpr (.inr ⟨v, hv, rfl⟩)
      exact ⟨entry, ⟨hentry, hname ▸ hid⟩, hname⟩
  · have hmap : vlanNames s = (s.vlanInterfaces.map fun v => v.name.chars).map String.ofList := by
      rw [List.map_map]
      rfl
    rw [hmap]
    exact hvlans.map fun _ _ h => String.ofList_inj.mp h

end Ports

/-! ## MACs -/

/-- An entry without its VLAN, which the agent does not show. -/
def withoutVlan (entry : MacTableEntry) : MacTableEntry := { entry with vlanId := none }

section Macs

variable {s : ReferenceSwitch} {e : FdbEntry} {row : FdbRow}

/-- No address is listed twice under an index. -/
theorem nodup_fdbRows (s : ReferenceSwitch) : (s.fdbRows.map FdbRow.index).Nodup := by
  have hmap : s.fdbRows.map FdbRow.index =
      s.fdb.map FdbEntry.index ++ s.leftovers.map FdbLeftover.index := by
    rw [fdbRows, List.map_append, List.map_map, List.map_map]
    rfl
  rw [hmap]
  exact s.fdb_nodup

/-- The MAC that the agent shows of a row, if the row is in use. -/
def shownMac (row : FdbRow) : Option (List UInt8) :=
  if isUsable row.status then
    match row.address with
    | some octets => if octets.length = 6 then some octets else none
    | none =>
      if row.index.length = 6 && row.index.all (· ≤ 255) then some (row.index.map UInt8.ofNat)
      else none
  else none

/-- The table has each address that is shown, once for each row. -/
theorem mem_macTableFrom {entry : MacTableEntry} :
    entry ∈ macTableFrom s.macTableRows ↔ ∃ row ∈ s.fdbRows, ∃ mac, shownMac row = some mac ∧
      entry = { macAddress := String.ofList (macText mac), vlanId := none,
                portId := toString row.port } := by
  -- the columns are joined by the index, which names one row
  have hrow {row : FdbRow} (hrow : row ∈ s.fdbRows) :
      (if isUsable ((byIndex s.macTableRows.status fdbStatusColumn).intAt row.index) then
        macBytes (byIndex s.macTableRows.address fdbAddressColumn) row.index else none) =
          shownMac row := by
    have hcolumn (column : List ℕ) (value : FdbRow → Option SnmpValue) :
        (byIndex (columnRows s.fdbRows column FdbRow.index value) column).get row.index =
          value row := get_columnRows (nodup_fdbRows s) hrow
    have hstatus : (byIndex s.macTableRows.status fdbStatusColumn).intAt row.index =
        row.status := by
      have hget : (byIndex s.macTableRows.status fdbStatusColumn).get row.index =
          row.status.map .integer := hcolumn _ _
      rw [Table.intAt, hget]
      cases row.status <;> rfl
    have haddress : (byIndex s.macTableRows.address fdbAddressColumn).get row.index =
        row.address.map .octets := hcolumn _ _
    rw [hstatus, macBytes, haddress, shownMac]
    cases row.address <;> rfl
  have hget {i : List ℕ} {v : SnmpValue} :
      (byIndex s.macTableRows.port fdbPortColumn).get i = some v ↔
        ∃ row ∈ s.fdbRows, row.index = i ∧ some (.integer row.port) = some v :=
    get_columnRows_iff (nodup_fdbRows s)
  rw [macTableFrom, List.mem_filterMap]
  constructor
  · rintro ⟨⟨i, v⟩, hmem, hentry⟩
    -- the walk goes over the port column, so the entry comes from one of its rows
    obtain ⟨row, hin, rfl, hport⟩ := hget.mp (Table.mem_iter.mp hmem)
    obtain rfl := Option.some.inj hport
    refine ⟨row, hin, ?_⟩
    rw [← hrow hin]
    split at hentry
    · next husable =>
      obtain ⟨mac, hmac, rfl⟩ := Option.map_eq_some_iff.mp hentry
      exact ⟨mac, by rw [if_pos husable]; exact hmac, rfl⟩
    · cases hentry
  · rintro ⟨row, hmem, mac, hmac, rfl⟩
    refine ⟨(row.index, .integer row.port), Table.mem_iter.mpr (hget.mpr ⟨row, hmem, rfl, rfl⟩), ?_⟩
    rw [← hrow hmem] at hmac
    split at hmac
    · next husable =>
      rw [if_pos husable]
      exact Option.map_eq_some_iff.mpr ⟨mac, hmac, rfl⟩
    · cases hmac

/-- The row of an entry shows its MAC, in whichever of the two places it is. -/
theorem shownMac_entry (e : FdbEntry) :
    shownMac ⟨e.index, e.portId, if e.inColumn then some e.mac else none, e.status⟩ =
      some e.mac := by
  rw [shownMac, if_pos e.usable]
  cases hcolumn : e.inColumn with
  | true => exact if_pos e.six
  | false =>
    have hindex := e.index_eq hcolumn
    have hlength : e.index.length = 6 := by rw [hindex, List.length_map, e.six]
    have hsmall : e.index.all (· ≤ 255) = true := by
      rw [hindex, List.all_map, List.all_eq_true]
      intro b _
      have hlt := b.toNat_lt
      exact decide_eq_true (by omega)
    have hback : e.index.map UInt8.ofNat = e.mac := by
      rw [hindex, List.map_map]
      refine (List.map_congr_left fun b _ => ?_).trans (List.map_id _)
      exact UInt8.ofNat_toNat
    dsimp only
    rw [if_neg Bool.false_ne_true]
    dsimp only
    rw [hlength, hsmall, hback]
    rfl

/-- The MACs are the same, as a set. -/
theorem macs_agree (s : ReferenceSwitch) (entry : MacTableEntry) :
    entry ∈ macTableFrom s.macTableRows ↔
      entry ∈ (parseMacTable s.macAddressText).map withoutVlan := by
  have hshown (e : FdbEntry) : withoutVlan e.consoleEntry =
      { macAddress := String.ofList (macText e.mac), vlanId := none,
        portId := toString (e.portId : ℤ) } := rfl
  rw [mem_macTableFrom, parseMacTable_macAddressText, List.map_map, List.mem_map]
  constructor
  · rintro ⟨row, hmem, mac, hmac, rfl⟩
    rcases List.mem_append.mp hmem with hmem | hmem
    · obtain ⟨e, he, rfl⟩ := List.mem_map.mp hmem
      rw [shownMac_entry] at hmac
      obtain rfl := Option.some.inj hmac
      exact ⟨e, he, hshown e⟩
    · -- a row that is not in use
      obtain ⟨leftover, -, rfl⟩ := List.mem_map.mp hmem
      rw [shownMac, if_neg (by simp [leftover.unusable])] at hmac
      cases hmac
  · rintro ⟨e, he, rfl⟩
    exact ⟨_, List.mem_append_left _ (List.mem_map_of_mem he), e.mac, shownMac_entry e, hshown e⟩

end Macs

/-! ## Both lookups -/

/-- What the two lookups of a switch have in common. -/
structure LookupsAgree (s : ReferenceSwitch) (supportsPoe : String → Bool) : Prop where
  ports : (((portStatusFrom s.portStatusRows supportsPoe).filter (·.portId ∉ vlanNames s)).map
    withoutPoe).Perm (parsePortStatus s.physicalPortText)
  vlanInterfaces : (((portStatusFrom s.portStatusRows supportsPoe).filter
    (·.portId ∈ vlanNames s)).map PortStatusEntry.portId).Perm (vlanNames s)
  alone : s.vlanInterfaces = [] →
    ((portStatusFrom s.portStatusRows supportsPoe).map withoutPoe).Perm
      (parsePortStatus s.physicalPortText)
  macs : ∀ entry, entry ∈ macTableFrom s.macTableRows ↔
    entry ∈ (parseMacTable s.macAddressText).map withoutVlan

/-- SNMP and the console show the same ports and the same MACs; the interfaces of VLANs are shown
by SNMP alone. -/
theorem lookups_agree (s : ReferenceSwitch) (supportsPoe : String → Bool) :
    LookupsAgree s supportsPoe := by
  refine ⟨ports_agree s supportsPoe, vlanInterfaces_listed s supportsPoe, ?_, macs_agree s⟩
  intro hnone
  have hports := ports_agree s supportsPoe
  have hall : (portStatusFrom s.portStatusRows supportsPoe).filter (·.portId ∉ vlanNames s) =
      portStatusFrom s.portStatusRows supportsPoe := by
    rw [List.filter_eq_self]
    intro entry _
    simp [vlanNames, hnone]
  rwa [hall] at hports

/-! ## A switch with a VLAN interface -/

/-- A switch with a port and the interface `internal`, which is listed twice, whose management
address is on the interface of VLAN 42. It has learned a MAC and has one of its own; a third one is
not in use any more. -/
def managedSwitch : ReferenceSwitch where
  hostname := ⟨"sw1".toList, by decide, by decide⟩
  interfaces := [{
    name := ⟨"port1".toList, by decide, by decide⟩
    ifIndex := 1
    link := .up 1000 (by decide) .full
    detail := none }, {
    name := ⟨"internal".toList, by decide, by decide⟩
    ifIndex := 25
    link := .up 1000 (by decide) .full
    again := some (27, ⟨2, by decide, some 0, none⟩)
    detail := some (⟨"disabled".toList, by decide, by decide⟩, ⟨"up".toList, by decide, by decide⟩)
    }]
  vlanInterfaces := [{
    name := ⟨"vlan42".toList, by decide, by decide⟩
    ifIndex := 31
    operStatus := 1
    highSpeed := none
    duplex := none }]
  names_nodup := by decide
  indices_nodup := by decide
  fdb := [{
    mac := [0, 9, 15, 1, 2, 3]
    six := rfl
    vlan := 42
    portName := ⟨"port1".toList, by decide, by decide⟩
    portId := 1
    status := some 3
    usable := by decide
    index := [7]
    inColumn := true
    index_eq := by decide }, {
    mac := [0, 9, 15, 1, 2, 4]
    six := rfl
    vlan := 1
    portName := ⟨"internal".toList, by decide, by decide⟩
    portId := 25
    status := some 4
    usable := by decide
    index := [0, 9, 15, 1, 2, 4]
    inColumn := false
    index_eq := by decide }]
  leftovers := [⟨[8], 1, some [0, 9, 15, 1, 2, 5], 2, by decide⟩]
  fdb_nodup := by decide
  pethAdmin := []
  pethDetection := []

example : (macTableFrom managedSwitch.macTableRows).map MacTableEntry.macAddress =
    ["00:09:0f:01:02:04", "00:09:0f:01:02:03"] := by
  decide +kernel

/-- The console does not show `vlan42`. -/
theorem vlanInterface_only_in_snmp :
    ((portStatusFrom managedSwitch.portStatusRows fun _ => false).map
      PortStatusEntry.portId) = ["port1", "internal", "vlan42"] ∧
    (parsePortStatus managedSwitch.physicalPortText).map PortStatusEntry.portId =
      ["port1", "internal"] ∧
    ¬((portStatusFrom managedSwitch.portStatusRows fun _ => false).map withoutPoe).Perm
      (parsePortStatus managedSwitch.physicalPortText) := by
  refine ⟨by decide +kernel, by decide +kernel, fun hperm => ?_⟩
  exact absurd hperm.length_eq (by decide +kernel)

end SwitchConfigurator.Snmp
