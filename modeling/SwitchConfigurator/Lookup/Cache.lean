import SwitchConfigurator.Diff
import SwitchConfigurator.Foundations.KeyedUpdate
import Mathlib.Data.Fintype.Basic
import Mathlib.Logic.Function.Basic

/-!
# Cached lookups

A MAC table or a port status that was read from a switch is kept, with the time of the reading
and an id of its own, and served to later callers while it is fresh.
-/

namespace SwitchConfigurator

structure MacTableEntry where
  macAddress : String
  vlanId : Option ℕ
  portId : String
  deriving DecidableEq, Repr

/-- The live state of a port, as opposed to its configuration. -/
structure PortStatusEntry where
  portId : String
  linkStatus : Option String := none
  speed : Option String := none
  duplex : Option String := none
  poeStatus : Option String := none
  deriving DecidableEq, Repr

/-- Where to send SNMP reads. -/
structure SnmpTarget where
  host : String
  port : ℕ
  community : String
  deriving DecidableEq, Repr

/-- `target_for`: nothing if reads are off or no community is resolved. -/
def targetFor (switch : SwitchConfig) : Option SnmpTarget :=
  if readsEnabled switch then
    match (switch.snmp.bind (·.reads)).bind (·.community) with
    | some community =>
      if community.name.isEmpty then none
      else some ⟨switch.managementIp.getD "", switch.settings.snmpPort, community.name⟩
    | none => none
  else none

namespace Lookup

/-- What can be looked up; each has a cache of its own. -/
inductive Kind where
  | macTable
  | portStatus
  deriving DecidableEq, Repr

instance : Fintype Kind where
  elems := {.macTable, .portStatus}
  complete kind := by cases kind <;> decide

abbrev Kind.Entry : Kind → Type
  | .macTable => MacTableEntry
  | .portStatus => PortStatusEntry

/-- What a switch says when it is asked: `entries` and `raw_output`. -/
structure Data (kind : Kind) where
  entries : List kind.Entry
  rawOutput : String

/-- `CachedMacTable` and `CachedPortStatus`; the time is in nanoseconds. -/
structure Cached (kind : Kind) where
  data : Data kind
  fetchedAt : ℤ
  generationId : String

/-- A cached value under its switch. The readings of all switches are numbered in the order in
which they were taken; the code has no such number. -/
structure Stored (kind : Kind) where
  switchId : String
  cached : Cached kind
  takenAt : ℕ

/-- The two caches. -/
abbrev Caches := (kind : Kind) → List (Stored kind)

namespace Caches

variable (caches : Caches) {kind kind' : Kind} {id id' : String}

def get (kind : Kind) (id : String) : Option (Stored kind) :=
  Keyed.lookup Stored.switchId id (caches kind)

def insert (entry : Stored kind) : Caches :=
  Function.update caches kind (Keyed.upsert Stored.switchId (caches kind) entry)

/-- `HashMap::retain` by the key, and `HashMap::remove` where one key goes. -/
def retain (kind : Kind) (keep : String → Bool) : Caches :=
  Function.update caches kind ((caches kind).filter fun entry => keep entry.switchId)

/-- What is stored is found. -/
theorem get_insert_self {entry : Stored kind} :
    (caches.insert entry).get kind entry.switchId = some entry := by
  rw [get, insert, Function.update_self, Keyed.lookup_upsert, if_pos rfl]

theorem get_insert_ne {entry : Stored kind} (h : id ≠ entry.switchId) :
    (caches.insert entry).get kind id = caches.get kind id := by
  rw [get, insert, Function.update_self, Keyed.lookup_upsert, if_neg (Ne.symm h)]
  rfl

theorem get_insert_of_kind {entry : Stored kind} (h : kind' ≠ kind) :
    (caches.insert entry).get kind' id = caches.get kind' id := by
  rw [get, insert, Function.update_of_ne h]
  rfl

/-- What is kept is found, and nothing else. -/
theorem get_retain {keep : String → Bool} : (caches.retain kind keep).get kind id =
    if keep id then caches.get kind id else none := by
  rw [get, retain, Function.update_self]
  exact Keyed.lookup_filter

/-- The caches of the other kinds are left alone. -/
theorem get_retain_of_kind {keep : String → Bool} (h : kind' ≠ kind) :
    (caches.retain kind keep).get kind' id = caches.get kind' id := by
  rw [get, retain, Function.update_of_ne h]
  rfl

end Caches

/-! ## Responses -/

def isMacTableCacheFresh (now fetchedAt maxAge : ℤ) : Bool := now - fetchedAt < maxAge

/-- The quoted id. -/
def cacheEtag (generationId : String) : String := "\"" ++ generationId ++ "\""

/-- The headers of a response that can come from a cache. -/
structure CacheHeaders where
  etag : String
  age : ℕ
  maxAge : ℕ
  lastModified : ℕ
  deriving DecidableEq, Repr

/-- Whole seconds, as `Duration::num_seconds` counts them. -/
def numSeconds (nanoseconds : ℤ) : ℤ := nanoseconds.tdiv 1000000000

def cacheHeaders (now fetchedAt maxAge : ℤ) (generationId : String) : CacheHeaders where
  etag := cacheEtag generationId
  age := (numSeconds (now - fetchedAt)).toNat
  maxAge := (numSeconds maxAge).toNat
  -- `DateTime::timestamp` rounds down.
  lastModified := (fetchedAt / 1000000000).toNat

/-- `If-None-Match`; the tags are compared weakly, so that a `W/` makes no difference. -/
inductive IfNoneMatch where
  | any
  | tags (etags : List String)
  deriving DecidableEq, Repr

def IfNoneMatch.preconditionPasses : IfNoneMatch → String → Bool
  | any, _ => false
  | tags etags, etag => etag ∉ etags

inductive DataSource where
  | auto
  | snmp
  | console
  deriving DecidableEq, Repr

/-- `MacTableQuery` and `PortStatusQuery`, with the header that goes with them. -/
structure Query where
  source : DataSource := .auto
  fresh : Bool := false
  maxAgeSeconds : Option ℤ := none
  ifNoneMatch : Option IfNoneMatch := none
  deriving DecidableEq, Repr

def macTableCacheDefaultMaxAgeSecs : ℤ := 60

def Query.maxAge (query : Query) : ℤ :=
  query.maxAgeSeconds.getD macTableCacheDefaultMaxAgeSecs * 1000000000

/-- A `200`, or a `304` without a body, that carries the headers of a cache. -/
structure Response where
  switchId : String
  headers : CacheHeaders
  kind : Kind
  body : Option (Data kind)
  /-- `x-data-source` and whether the fallback header is set; a cached answer has neither. -/
  source : Option (String × Bool) := none
  /-- The number of the reading that it shows. -/
  takenAt : ℕ

/-- A response comes from the cache exactly if it does not say where it was read. -/
def Response.isCached (response : Response) : Bool := response.source.isNone

/-- `mac_table_cache_response` and `port_status_cache_response`. -/
def cacheResponse (caches : Caches) (kind : Kind) (id : String) (query : Query) (now : ℤ) :
    Option Response :=
  (caches.get kind id).bind fun entry =>
    if isMacTableCacheFresh now entry.cached.fetchedAt query.maxAge then
      let etagMatches := query.ifNoneMatch.any fun inm =>
        !inm.preconditionPasses (cacheEtag entry.cached.generationId)
      some {
        switchId := id
        headers :=
          cacheHeaders now entry.cached.fetchedAt query.maxAge entry.cached.generationId
        kind
        body := if etagMatches then none else some entry.cached.data
        takenAt := entry.takenAt }
    else none

/-- What is in a response of the cache is what the cache has. -/
theorem cacheResponse_eq_some {caches : Caches} {kind : Kind} {id : String} {query : Query}
    {now : ℤ} {response : Response} (h : cacheResponse caches kind id query now = some response) :
    ∃ entry, caches.get kind id = some entry ∧ ∃ body,
      (∀ data ∈ body, data = entry.cached.data) ∧
      response =
        { switchId := id
          headers :=
            cacheHeaders now entry.cached.fetchedAt query.maxAge entry.cached.generationId
          kind
          body
          takenAt := entry.takenAt } := by
  unfold cacheResponse at h
  obtain ⟨entry, hget, h⟩ := Option.bind_eq_some_iff.mp h
  split at h
  · refine ⟨entry, hget, _, ?_, (Option.some.inj h).symm⟩
    intro data hdata
    split at hdata
    · exact absurd hdata (Option.not_mem_none _)
    · exact (Option.some.inj hdata).symm
  · cases h

/-- No two generations have one tag. -/
theorem cacheEtag_inj {a b : String} (h : cacheEtag a = cacheEtag b) : a = b := by
  have hlist : a.toList = b.toList := by
    simpa [cacheEtag, String.toList_append] using congrArg String.toList h
  exact String.toList_inj.mp hlist

end Lookup

end SwitchConfigurator
