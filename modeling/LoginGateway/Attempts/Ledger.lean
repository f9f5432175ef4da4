import LoginGateway.Attempts.Policy

namespace LoginGateway.Attempts

/-- The open window of one source: when it opened and how many attempts it has allowed. -/
structure Record where
  count : UInt32
  windowStart : Duration
  deriving DecidableEq

inductive Decision where
  | allowed
  | limited (retryAfter : Duration)
  deriving DecidableEq

namespace Decision

def isAllowed : Decision → Bool
  | allowed => true
  | limited _ => false

end Decision

namespace Record

/-- The window of `record` is over. A clock that went back leaves it open. -/
def Expired (policy : Policy) (now : Duration) (record : Record) : Prop :=
  policy.window < now.since record.windowStart

instance (policy : Policy) (now : Duration) (record : Record) :
    Decidable (record.Expired policy now) :=
  inferInstanceAs (Decidable (policy.window < now.since record.windowStart))

def attempt (policy : Policy) (now : Duration) : Option Record → Decision × Record
  | none => (.allowed, ⟨1, now⟩)
  | some record =>
    if record.Expired policy now then (.allowed, ⟨1, now⟩)
    else if record.count < policy.maxAttempts then
      (.allowed, { record with count := record.count + 1 })
    else (.limited (policy.window.since (now.since record.windowStart)), record)

end Record

structure Ledger where
  entries : List (String × Record)
  nodup : (entries.map Prod.fst).Nodup

namespace Ledger

theorem ext_entries {l m : Ledger} (h : l.entries = m.entries) : l = m := by
  cases l; cases m; simp_all

def empty : Ledger := ⟨[], List.nodup_nil⟩

def size (ledger : Ledger) : Nat := ledger.entries.length

def find? (ledger : Ledger) (source : String) : Option Record := ledger.entries.lookup source

def putEntry (source : String) (record : Record) : List (String × Record) → List (String × Record)
  | [] => [(source, record)]
  | (s, r) :: entries =>
    if s = source then (source, record) :: entries else (s, r) :: putEntry source record entries

theorem fst_mem_putEntry {source s : String} {record : Record} {entries : List (String × Record)} :
    s ∈ (putEntry source record entries).map Prod.fst ↔
      s = source ∨ s ∈ entries.map Prod.fst := by
  induction entries with
  | nil => simp [putEntry]
  | cons e entries ih =>
    obtain ⟨t, r⟩ := e
    simp only [putEntry]
    split
    · rename_i h
      subst h
      simp
    · simp only [List.map_cons, List.mem_cons, ih]
      grind

theorem nodup_putEntry (source : String) (record : Record) {entries : List (String × Record)}
    (h : (entries.map Prod.fst).Nodup) : ((putEntry source record entries).map Prod.fst).Nodup := by
  induction entries with
  | nil => simp [putEntry]
  | cons e entries ih =>
    obtain ⟨t, r⟩ := e
    simp only [List.map_cons, List.nodup_cons] at h
    simp only [putEntry]
    split
    · rename_i ht
      subst ht
      simpa using h
    · rename_i ht
      simp only [List.map_cons, List.nodup_cons, fst_mem_putEntry, not_or]
      exact ⟨⟨ht, h.1⟩, ih h.2⟩

def put (ledger : Ledger) (source : String) (record : Record) : Ledger :=
  ⟨putEntry source record ledger.entries, nodup_putEntry source record ledger.nodup⟩

def keep (ledger : Ledger) (p : String → Record → Bool) : Ledger :=
  ⟨ledger.entries.filter fun e => p e.1 e.2,
    ledger.nodup.sublist (List.filter_sublist.map Prod.fst)⟩

/-- Counts an attempt of `source` and decides whether it may go on. -/
def check (policy : Policy) (now : Duration) (source : String) (ledger : Ledger) :
    Decision × Ledger :=
  let (decision, record) := Record.attempt policy now (ledger.find? source)
  (decision, ledger.put source record)

def reset (source : String) (ledger : Ledger) : Ledger := ledger.keep fun s _ => s != source

def sweep (policy : Policy) (now : Duration) (ledger : Ledger) : Ledger :=
  ledger.keep fun _ record => !decide (record.Expired policy now)

section Lookup

variable (ledger : Ledger) (source other : String) (record : Record)

@[simp] theorem find?_empty : empty.find? source = none := rfl

theorem lookup_cons_eq (s : String) (r : Record) (entries : List (String × Record)) :
    List.lookup source ((s, r) :: entries) = if source = s then some r else entries.lookup source := by
  have hb : (source == s) = decide (source = s) := rfl
  rw [List.lookup_cons, hb]
  by_cases h : source = s <;> simp [h]

theorem lookup_putEntry (entries : List (String × Record)) :
    (putEntry source record entries).lookup other =
      if other = source then some record else entries.lookup other := by
  induction entries with
  | nil => simp [putEntry, lookup_cons_eq]
  | cons e entries ih =>
    obtain ⟨t, r⟩ := e
    simp only [putEntry]
    split
    · rename_i h
      subst h
      simp only [lookup_cons_eq]
      grind
    · simp only [lookup_cons_eq, ih]
      grind

@[simp] theorem find?_put :
    (ledger.put source record).find? other =
      if other = source then some record else ledger.find? other :=
  lookup_putEntry source other record ledger.entries

theorem lookup_eq_none {s : String} {entries : List (String × Record)}
    (h : s ∉ entries.map Prod.fst) : entries.lookup s = none := by
  induction entries with
  | nil => rfl
  | cons e entries ih =>
    obtain ⟨t, r⟩ := e
    simp only [List.map_cons, List.mem_cons, not_or] at h
    rw [lookup_cons_eq, if_neg h.1, ih h.2]

theorem lookup_filter (p : String → Record → Bool) {entries : List (String × Record)}
    (h : (entries.map Prod.fst).Nodup) :
    (entries.filter fun e => p e.1 e.2).lookup source = (entries.lookup source).filter (p source) := by
  induction entries with
  | nil => rfl
  | cons e entries ih =>
    obtain ⟨t, r⟩ := e
    simp only [List.map_cons, List.nodup_cons] at h
    have hn := lookup_eq_none h.1
    rw [List.filter_cons, lookup_cons_eq]
    by_cases hs : source = t
    · subst hs
      have ih := ih h.2
      rw [hn] at ih
      by_cases hp : p source r <;> simp [hp, Option.filter]
      simpa [Option.filter] using ih
    · by_cases hp : p t r <;> simp [hp, hs, lookup_cons_eq, ih h.2]

@[simp] theorem find?_keep (p : String → Record → Bool) :
    (ledger.keep p).find? source = (ledger.find? source).filter (p source) :=
  lookup_filter source p ledger.nodup

variable (policy : Policy) (now : Duration)

@[simp] theorem fst_check :
    (ledger.check policy now source).1 = (Record.attempt policy now (ledger.find? source)).1 := rfl

@[simp] theorem find?_check :
    (ledger.check policy now source).2.find? other =
      if other = source then some (Record.attempt policy now (ledger.find? source)).2
      else ledger.find? other :=
  find?_put ledger source other _

@[simp] theorem find?_reset :
    (ledger.reset source).find? other = if other = source then none else ledger.find? other := by
  rw [reset, find?_keep]
  by_cases h : other = source
  · subst h
    cases ledger.find? other <;> simp [Option.filter]
  · cases ledger.find? other <;> simp [Option.filter, h]

@[simp] theorem find?_sweep :
    (ledger.sweep policy now).find? source =
      (ledger.find? source).filter fun record => !decide (record.Expired policy now) :=
  find?_keep ledger source _

end Lookup

end Ledger

end LoginGateway.Attempts
