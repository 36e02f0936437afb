import Sandbox.Config.Schema
import Sandbox.Proofs.Toml.Documents

/-!
# Configurations with some of their keys

A document may leave out any keys and any sections, and the configuration that it describes has the
defaults there. Each key copies its own value from the configuration that was written, and leaves
everything else as it is; so the keys that a document has can be followed one by one.

## Main definitions

* `keep` : a configuration with the defaults in all keys but some.
* `sectionOf` : the keys of a section of a document.
* `Holds` : documents that have some keys of a configuration, and no others.
* `select` : such a document, with some sections, which may be empty.
* `Field.Copies` : fields that copy a part of a record.

## Main results

* `Field.Copies.readTable_cons` : what the first field of a table adds to a record.
* `Holds.ofTable_eq` : a document that has some keys is read as the configuration with these.
-/

namespace Sandbox.Config

open Toml (Value Table Fault IsBare IsPlain IsPlainTable IsPlainDocument)

/-- A section about the cache, with the defaults in all keys but some. -/
def Cache.keep (chosen : String → Bool) (cache : Cache) : Cache :=
  let default : Cache := {}
  { directory := if chosen "directory" then cache.directory else default.directory }

/-- A section about downloads, with the defaults in all keys but some. -/
def Network.keep (chosen : String → Bool) (network : Network) : Network :=
  let default : Network := {}
  { timeout := if chosen "timeout_secs" then network.timeout else default.timeout
    maxRedirects := if chosen "max_redirects" then network.maxRedirects else default.maxRedirects
    userAgent := if chosen "user_agent" then network.userAgent else default.userAgent }

/-- A section about the compiler, with the defaults in all keys but some. -/
def Compiler.keep (chosen : String → Bool) (compiler : Compiler) : Compiler :=
  let default : Compiler := {}
  { path := if chosen "path" then compiler.path else default.path
    url := if chosen "url" then compiler.url else default.url
    target := if chosen "target" then compiler.target else default.target
    optimization := if chosen "opt_level" then compiler.optimization else default.optimization
    strictImports :=
      if chosen "strict_imports" then compiler.strictImports else default.strictImports }

/-- A section about the interpreter, with the defaults in all keys but some. -/
def Python.keep (chosen : String → Bool) (python : Python) : Python :=
  let default : Python := {}
  { path := if chosen "path" then python.path else default.path
    url := if chosen "url" then python.url else default.url
    preload := if chosen "preload" then python.preload else default.preload
    libraryDirectory :=
      if chosen "lib_dir" then python.libraryDirectory else default.libraryDirectory }

/-- A configuration with the defaults in all keys but some. -/
def keep (chosen : String → String → Bool) (config : Config) : Config where
  cache := config.cache.keep (chosen "cache")
  network := config.network.keep (chosen "network")
  compiler := config.compiler.keep (chosen "compiler")
  python := config.python.keep (chosen "python")

/-- The keys of a section of a document, which are none if the document does not have it. -/
def sectionOf (document : Table) (name : String) : Table :=
  match document.get? name with
  | some (.table members) => members
  | _ => []

/-- Documents that have some keys of a configuration, with its values, and no others. A key that the
configuration has no value for is not there. -/
structure Holds (chosen : String → String → Bool) (config : Config) (document : Table) : Prop where
  /-- The sections are tables. -/
  isTable : ∀ name value, document.get? name = some value → ∃ members, value = .table members
  /-- Their keys are those that are chosen. -/
  get?_eq : ∀ name key, (sectionOf document name).get? key =
    if chosen name key then (sectionOf config.toTable name).get? key else none

/-- The chosen keys of a section. -/
def restrict (chosen : String → Bool) : Value → Value
  | .table members => .table (members.filter fun member => chosen member.1)
  | value => value

/-- The document that has some sections of a configuration, and some keys in them. -/
def select (present : String → Bool) (chosen : String → String → Bool) (config : Config) : Table :=
  (config.toTable.filter fun part => present part.1).map fun part =>
    (part.1, restrict (chosen part.1) part.2)

variable {σ τ α : Type} {field : Field σ} {fields : List (Field σ)} {table : Table}
  {source record : σ} {get : σ → α} {set : α → σ → σ} {key name : String} {value : Value}

/-! ### Fields -/

/-- A field that copies a part of a record. -/
structure Field.Copies (field : Field σ) (source : σ) (get : σ → α) (set : α → σ → σ) : Prop where
  /-- A value that was written is read. -/
  read_eq : ∀ value record, field.write source = some value →
    field.read value record = some (set (get source) record)
  /-- What has no value is the same everywhere. -/
  get_eq : ∀ record, field.write source = none → field.write record = none →
    get source = get record
  /-- The part that a record has is all that it is given. -/
  set_get : ∀ record, set (get record) record = record

theorem Field.copies_text {get : σ → String} {set : String → σ → σ} (key : String) (source : σ)
    (hset : ∀ record, set (get record) record = record) :
    (Field.text key get set).Copies source get set where
  read_eq := by rintro _ record ⟨⟩; rfl
  get_eq := fun _ h => nomatch h
  set_get := hset

theorem Field.copies_text? {get : σ → Option String} {set : Option String → σ → σ} (key : String)
    (source : σ) (hset : ∀ record, set (get record) record = record) :
    (Field.text? key get set).Copies source get set where
  read_eq := by
    intro value record h
    obtain ⟨s, hs, rfl⟩ := Option.map_eq_some_iff.mp h
    rw [hs]
    rfl
  get_eq := fun record h hrecord =>
    (Option.map_eq_none_iff.mp h).trans (Option.map_eq_none_iff.mp hrecord).symm
  set_get := hset

theorem Field.copies_number {get : σ → Nat} {set : Nat → σ → σ} {bound : Nat} (key : String)
    (source : σ) (hset : ∀ record, set (get record) record = record) (hbound : get source < bound) :
    (Field.number key bound get set).Copies source get set where
  read_eq := by
    rintro _ record ⟨⟩
    exact if_pos ⟨Int.natCast_nonneg _, Int.ofNat_lt.mpr hbound⟩
  get_eq := fun _ h => nomatch h
  set_get := hset

theorem Field.copies_flag {get : σ → Bool} {set : Bool → σ → σ} (key : String) (source : σ)
    (hset : ∀ record, set (get record) record = record) :
    (Field.flag key get set).Copies source get set where
  read_eq := by rintro _ record ⟨⟩; rfl
  get_eq := fun _ h => nomatch h
  set_get := hset

theorem Field.mapM_textOf? (texts : List String) :
    (texts.map Value.text).mapM Field.textOf? = some texts := by
  induction texts with
  | nil => rfl
  | cons s texts ih => simp [List.mapM_cons, Field.textOf?, ih]

theorem Field.copies_texts {get : σ → List String} {set : List String → σ → σ} (key : String)
    (source : σ) (hset : ∀ record, set (get record) record = record) :
    (Field.texts key get set).Copies source get set where
  read_eq := by
    rintro _ record ⟨⟩
    change (((get source).map Value.text).mapM Field.textOf?).map
      (fun texts => set texts record) = _
    rw [Field.mapM_textOf?, Option.map_some]
  get_eq := fun _ h => nomatch h
  set_get := hset

/-- What the first field of a table adds to a record: the value of the source, if it is chosen. -/
theorem Field.Copies.readTable_cons {keep : Bool} (h : field.Copies source get set)
    (hvalue : table.get? field.key = if keep then field.write source else none)
    (hdefault : field.write source = none → field.write record = none) :
    Field.readTable (field :: fields) table record =
      Field.readTable fields table (set (if keep then get source else get record) record) := by
  rw [Field.readTable, List.foldlM_cons, hvalue]
  cases keep with
  | false =>
    simp only [Bool.false_eq_true, if_false, h.set_get]
    rfl
  | true =>
    simp only [if_true]
    cases hwrite : field.write source with
    | none =>
      rw [h.get_eq record hwrite (hdefault hwrite), h.set_get]
      rfl
    | some value =>
      simp only [Field.apply, h.read_eq value record hwrite]
      rfl

theorem Field.readTable_nil (fields : List (Field σ)) (record : σ) :
    Field.readTable fields [] record = .ok record := by
  induction fields with
  | nil => rfl
  | cons field fields ih => exact ih

/-- What a section adds to a record. -/
theorem Field.readTable_record {parts : List (Field τ)} {default part : τ} {get : σ → τ}
    {set : τ → σ → σ}
    (htable : ∀ value, table.get? name = some value → ∃ members, value = .table members)
    (hpart : Field.readTable parts (sectionOf table name) default = .ok part)
    (hset : set default record = record) :
    Field.readTable (.record name parts default get set :: fields) table record =
      Field.readTable fields table (set part record) := by
  rw [Field.readTable, List.foldlM_cons]
  cases hvalue : table.get? (Field.record name parts default get set).key with
  | none =>
    have hnil : sectionOf table name = [] := by
      rw [sectionOf, show table.get? name = none from hvalue]
    rw [hnil, Field.readTable_nil] at hpart
    cases hpart
    rw [hset]
    rfl
  | some value =>
    obtain ⟨members, rfl⟩ := htable value hvalue
    have hmembers : sectionOf table name = members := by
      rw [sectionOf, show table.get? name = some (.table members) from hvalue]
    rw [hmembers] at hpart
    have hread : (Field.record name parts default get set).read (.table members) record =
        some (set part record) := by
      change ((Field.readTable parts members default).toOption).map _ = _
      rw [hpart]
      rfl
    simp only [Field.apply, hread]
    rfl

/-! ### Sections -/

theorem readTable_cacheFields {chosen : String → Bool} (source : Cache)
    (h : ∀ field ∈ cacheFields,
      table.get? field.key = if chosen field.key then field.write source else none) :
    Field.readTable cacheFields table {} = .ok (source.keep chosen) := by
  simp only [cacheFields, List.forall_mem_cons] at h
  obtain ⟨hdirectory, -⟩ := h
  rw [cacheFields,
    (Field.copies_text? "directory" source fun _ => rfl).readTable_cons hdirectory fun _ => rfl]
  rfl

theorem readTable_networkFields {chosen : String → Bool} (source : Network)
    (htimeout : source.timeout < 0x10000000000000000)
    (hredirects : source.maxRedirects < 0x100000000)
    (h : ∀ field ∈ networkFields,
      table.get? field.key = if chosen field.key then field.write source else none) :
    Field.readTable networkFields table {} = .ok (source.keep chosen) := by
  simp only [networkFields, List.forall_mem_cons] at h
  obtain ⟨hseconds, hcount, hagent, -⟩ := h
  rw [networkFields,
    (Field.copies_number "timeout_secs" source (fun _ => rfl) htimeout).readTable_cons hseconds
      (fun h => nomatch h),
    (Field.copies_number "max_redirects" source (fun _ => rfl) hredirects).readTable_cons hcount
      (fun h => nomatch h),
    (Field.copies_text? "user_agent" source fun _ => rfl).readTable_cons hagent fun _ => rfl]
  rfl

theorem readTable_compilerFields {chosen : String → Bool} (source : Compiler)
    (h : ∀ field ∈ compilerFields,
      table.get? field.key = if chosen field.key then field.write source else none) :
    Field.readTable compilerFields table {} = .ok (source.keep chosen) := by
  simp only [compilerFields, List.forall_mem_cons] at h
  obtain ⟨hpath, hurl, htarget, hlevel, hstrict, -⟩ := h
  rw [compilerFields,
    (Field.copies_text? "path" source fun _ => rfl).readTable_cons hpath fun _ => rfl,
    (Field.copies_text "url" source fun _ => rfl).readTable_cons hurl (fun h => nomatch h),
    (Field.copies_text "target" source fun _ => rfl).readTable_cons htarget (fun h => nomatch h),
    (Field.copies_text "opt_level" source fun _ => rfl).readTable_cons hlevel (fun h => nomatch h),
    (Field.copies_flag "strict_imports" source fun _ => rfl).readTable_cons hstrict
      (fun h => nomatch h)]
  rfl

theorem readTable_pythonFields {chosen : String → Bool} (source : Python)
    (h : ∀ field ∈ pythonFields,
      table.get? field.key = if chosen field.key then field.write source else none) :
    Field.readTable pythonFields table {} = .ok (source.keep chosen) := by
  simp only [pythonFields, List.forall_mem_cons] at h
  obtain ⟨hpath, hurl, hpreload, hlibrary, -⟩ := h
  rw [pythonFields,
    (Field.copies_text? "path" source fun _ => rfl).readTable_cons hpath fun _ => rfl,
    (Field.copies_text "url" source fun _ => rfl).readTable_cons hurl (fun h => nomatch h),
    (Field.copies_texts "preload" source fun _ => rfl).readTable_cons hpreload (fun h => nomatch h),
    (Field.copies_text? "lib_dir" source fun _ => rfl).readTable_cons hlibrary fun _ => rfl]
  rfl

/-! ### Documents that have some keys -/

theorem get?_cons (member : String × Value) (table : Table) (key : String) :
    Table.get? (member :: table) key =
      if member.1 = key then some member.2 else table.get? key := by
  by_cases h : member.1 = key <;> simp [Table.get?, h]

theorem get?_eq_none (h : ∀ member ∈ table, member.1 ≠ key) : table.get? key = none := by
  simpa [Table.get?] using h

theorem Field.mem_writeTable {member : String × Value} :
    member ∈ Field.writeTable fields record ↔
      ∃ field ∈ fields, field.write record = some member.2 ∧ field.key = member.1 := by
  obtain ⟨key, value⟩ := member
  simp only [Field.writeTable, List.mem_filterMap, Option.map_eq_some_iff, Prod.mk.injEq]
  constructor
  · rintro ⟨field, hfield, value, hvalue, rfl, rfl⟩
    exact ⟨field, hfield, hvalue, rfl⟩
  · rintro ⟨field, hfield, hvalue, rfl⟩
    exact ⟨field, hfield, value, hvalue, rfl, rfl⟩

theorem Field.writeTable_cons (field : Field σ) (fields : List (Field σ)) (record : σ) :
    Field.writeTable (field :: fields) record =
      ((field.write record).map fun value => (field.key, value)).toList ++
        Field.writeTable fields record := by
  simp only [Field.writeTable, List.filterMap_cons]
  cases field.write record <;> rfl

/-- A field is found with the value that was written for it. -/
theorem Field.get?_writeTable (hnodup : (fields.map Field.key).Nodup) (hfield : field ∈ fields)
    (record : σ) : (Field.writeTable fields record).get? field.key = field.write record := by
  induction fields with
  | nil => cases hfield
  | cons first fields ih =>
    rw [List.map_cons, List.nodup_cons] at hnodup
    rw [writeTable_cons]
    rcases List.mem_cons.mp hfield with rfl | hmem
    · cases hwrite : field.write record with
      | some value => exact (get?_cons _ _ _).trans (if_pos rfl)
      | none =>
        refine get?_eq_none fun member hmember heq => hnodup.1 ?_
        obtain ⟨field', hfield', -, hkey⟩ := mem_writeTable.mp hmember
        exact List.mem_map.mpr ⟨field', hfield', hkey.trans heq⟩
    · have hne : first.key ≠ field.key := fun heq => hnodup.1 (heq ▸ List.mem_map_of_mem hmem)
      cases hwrite : first.write record with
      | some value => exact (get?_cons _ _ _).trans ((if_neg hne).trans (ih hnodup.2 hmem))
      | none => exact ih hnodup.2 hmem

/-- A section has the keys of a configuration that are chosen in it. -/
theorem Holds.get?_section {chosen : String → String → Bool} {config : Config}
    (h : Holds chosen config table) {parts : List (Field τ)} {default : τ} {get : Config → τ}
    {set : τ → Config → Config} (hsection : .record name parts default get set ∈ sections)
    (hnodup : (parts.map Field.key).Nodup) :
    ∀ field ∈ parts, (sectionOf table name).get? field.key =
      if chosen name field.key then field.write (get config) else none := by
  intro field hfield
  have hwhole : config.toTable.get? name = some (.table (Field.writeTable parts (get config))) :=
    Field.get?_writeTable (by decide) hsection config
  have hpart : sectionOf config.toTable name = Field.writeTable parts (get config) := by
    rw [sectionOf, hwhole]
  rw [h.get?_eq, hpart, Field.get?_writeTable hnodup hfield]

/-- A document that has some keys is read as the configuration with these. -/
theorem Holds.ofTable_eq {chosen : String → String → Bool} {config : Config}
    (h : Holds chosen config table) (htimeout : config.network.timeout < 0x10000000000000000)
    (hredirects : config.network.maxRedirects < 0x100000000) :
    ofTable table = .ok (config.keep chosen) := by
  have hcache := readTable_cacheFields config.cache
    (h.get?_section (.head _) (by decide))
  have hnetwork := readTable_networkFields config.network htimeout hredirects
    (h.get?_section (.tail _ (.head _)) (by decide))
  have hcompiler := readTable_compilerFields config.compiler
    (h.get?_section (.tail _ (.tail _ (.head _))) (by decide))
  have hpython := readTable_pythonFields config.python
    (h.get?_section (.tail _ (.tail _ (.tail _ (.head _)))) (by decide))
  rw [ofTable, sections, Field.readTable_record (h.isTable _) hcache rfl,
    Field.readTable_record (h.isTable _) hnetwork rfl,
    Field.readTable_record (h.isTable _) hcompiler rfl,
    Field.readTable_record (h.isTable _) hpython rfl]
  rfl

/-! ### Documents that are written -/

theorem get?_filter (chosen : String → Bool) (table : Table) (key : String) :
    Table.get? (table.filter fun member => chosen member.1) key =
      if chosen key then table.get? key else none := by
  induction table with
  | nil => simp [Table.get?]
  | cons member table ih =>
    obtain ⟨k, v⟩ := member
    by_cases hk : k = key
    · subst hk
      cases hchosen : chosen k with
      | true => simp [hchosen, get?_cons]
      | false => simpa [hchosen] using ih
    · cases hchosen : chosen k with
      | true => simpa [hchosen, get?_cons, hk] using ih
      | false => simpa [hchosen, get?_cons, hk] using ih

theorem get?_map (change : String → Value → Value) (table : Table) (key : String) :
    Table.get? (table.map fun member => (member.1, change member.1 member.2)) key =
      (table.get? key).map (change key) := by
  induction table with
  | nil => rfl
  | cons member table ih =>
    by_cases hkey : member.1 = key
    · simp [get?_cons, hkey]
    · simpa [get?_cons, hkey] using ih

theorem mem_of_get?_eq_some (h : table.get? key = some value) : (key, value) ∈ table := by
  obtain ⟨member, hmember, rfl⟩ := Option.map_eq_some_iff.mp h
  have hkey : member.1 = key := by simpa using List.find?_some hmember
  rw [← hkey]
  exact List.mem_of_find?_eq_some hmember

/-- Whether the value of a field, if it has one, is written on one line. -/
def Field.WritesPlain (field : Field σ) (record : σ) : Prop :=
  ∀ value, field.write record = some value → IsPlain Toml.Reader.deepest value

@[simp]
theorem Field.writesPlain_text (key : String) (get : σ → String) (set : String → σ → σ)
    (record : σ) : (Field.text key get set).WritesPlain record := by
  rintro _ ⟨⟩
  exact .text _ _

@[simp]
theorem Field.writesPlain_text? (key : String) (get : σ → Option String)
    (set : Option String → σ → σ) (record : σ) : (Field.text? key get set).WritesPlain record := by
  intro value h
  obtain ⟨s, -, rfl⟩ := Option.map_eq_some_iff.mp h
  exact .text _ s

@[simp]
theorem Field.writesPlain_number (key : String) (bound : Nat) (get : σ → Nat) (set : Nat → σ → σ)
    (record : σ) (h : get record < 0x10000000000000000) :
    (Field.number key bound get set).WritesPlain record := by
  rintro _ ⟨⟩
  refine .integer _ ?_
  simp only [Toml.fitsInteger, Bool.and_eq_true, decide_eq_true_eq]
  omega

@[simp]
theorem Field.writesPlain_flag (key : String) (get : σ → Bool) (set : Bool → σ → σ) (record : σ) :
    (Field.flag key get set).WritesPlain record := by
  rintro _ ⟨⟩
  exact .bool _ _

@[simp]
theorem Field.writesPlain_texts (key : String) (get : σ → List String) (set : List String → σ → σ)
    (record : σ) : (Field.texts key get set).WritesPlain record := by
  rintro _ ⟨⟩
  refine .array fun item hitem => ?_
  obtain ⟨s, -, rfl⟩ := List.mem_map.mp hitem
  exact .text _ s

theorem Field.sublist_writeTable (fields : List (Field σ)) (record : σ) :
    ((Field.writeTable fields record).map Prod.fst).Sublist (fields.map Field.key) := by
  induction fields with
  | nil => exact .slnil
  | cons field fields ih =>
    rw [writeTable_cons, List.map_cons]
    cases field.write record with
    | some value => exact ih.cons_cons _
    | none => exact ih.cons _

theorem Field.isPlainTable_writeTable (hbare : ∀ key ∈ fields.map Field.key, IsBare key)
    (hnodup : (fields.map Field.key).Nodup)
    (hplain : ∀ field ∈ fields, field.WritesPlain record) :
    IsPlainTable (Field.writeTable fields record) where
  isBare := fun member hmember =>
    hbare _ ((sublist_writeTable fields record).subset (List.mem_map_of_mem hmember))
  isPlain := by
    intro member hmember
    obtain ⟨field, hfield, hvalue, -⟩ := mem_writeTable.mp hmember
    exact hplain field hfield _ hvalue
  nodup := hnodup.sublist (sublist_writeTable fields record)

theorem isPlainTable_filter (h : IsPlainTable table) (chosen : String → Bool) :
    IsPlainTable (table.filter fun member => chosen member.1) where
  isBare := fun member hmember => h.isBare member (List.mem_filter.mp hmember).1
  isPlain := fun member hmember => h.isPlain member (List.mem_filter.mp hmember).1
  nodup := h.nodup.sublist (List.filter_sublist.map _)

/-- The sections of a configuration are tables that are written line by line. -/
theorem exists_of_mem_toTable {config : Config} {part : String × Value}
    (htimeout : config.network.timeout < 0x10000000000000000)
    (hredirects : config.network.maxRedirects < 0x100000000) (h : part ∈ config.toTable) :
    ∃ members, part.2 = .table members ∧ IsPlainTable members := by
  have hcount : config.network.maxRedirects < 0x10000000000000000 := by omega
  obtain ⟨field, hfield, hvalue, -⟩ := Field.mem_writeTable.mp h
  simp only [sections, List.mem_cons, List.not_mem_nil, or_false] at hfield
  rcases hfield with rfl | rfl | rfl | rfl
  · exact ⟨_, (Option.some.inj hvalue).symm, Field.isPlainTable_writeTable (by decide) (by decide)
      (by simp [cacheFields])⟩
  · exact ⟨_, (Option.some.inj hvalue).symm, Field.isPlainTable_writeTable (by decide) (by decide)
      (by simp [networkFields, htimeout, hcount])⟩
  · exact ⟨_, (Option.some.inj hvalue).symm, Field.isPlainTable_writeTable (by decide) (by decide)
      (by simp [compilerFields])⟩
  · exact ⟨_, (Option.some.inj hvalue).symm, Field.isPlainTable_writeTable (by decide) (by decide)
      (by simp [pythonFields])⟩

section Selection

variable {config : Config} {present : String → Bool} {chosen : String → String → Bool}

/-- The document with some keys of a configuration is written and read back. -/
theorem isPlainDocument_select (htimeout : config.network.timeout < 0x10000000000000000)
    (hredirects : config.network.maxRedirects < 0x100000000) :
    IsPlainDocument (config.select present chosen) := by
  have hkeys : ((config.select present chosen).map Prod.fst).Sublist (sections.map Field.key) := by
    have hmap : (config.select present chosen).map Prod.fst =
        (config.toTable.filter fun part => present part.1).map Prod.fst := by
      rw [select, List.map_map]
      rfl
    rw [hmap]
    exact (List.filter_sublist.map _).trans (Field.sublist_writeTable sections config)
  have hbare : ∀ key ∈ sections.map Field.key, IsBare key := by decide
  refine ⟨fun part hpart => hbare _ (hkeys.subset (List.mem_map_of_mem hpart)), ?_,
    List.Nodup.sublist hkeys (by decide)⟩
  intro part hpart
  obtain ⟨whole, hwhole, rfl⟩ := List.mem_map.mp hpart
  obtain ⟨members, hmembers, hplain⟩ :=
    exists_of_mem_toTable htimeout hredirects (List.mem_filter.mp hwhole).1
  exact ⟨_, by rw [hmembers]; rfl, isPlainTable_filter hplain _⟩

/-- The document with some keys of a configuration has these keys, and no others. -/
theorem holds_select (config : Config) (present : String → Bool)
    (chosen : String → String → Bool) :
    Holds (fun name key => present name && chosen name key) config
      (config.select present chosen) := by
  have hget : ∀ name, (config.select present chosen).get? name =
      if present name then (config.toTable.get? name).map (restrict (chosen name)) else none := by
    intro name
    rw [select, get?_map fun name => restrict (chosen name), get?_filter]
    cases present name <;> rfl
  have htable : ∀ name value, config.toTable.get? name = some value →
      ∃ members, value = .table members := by
    intro name value h
    obtain ⟨field, hfield, hvalue, -⟩ := Field.mem_writeTable.mp (mem_of_get?_eq_some h)
    simp only [sections, List.mem_cons, List.not_mem_nil, or_false] at hfield
    rcases hfield with rfl | rfl | rfl | rfl <;> exact ⟨_, (Option.some.inj hvalue).symm⟩
  constructor
  · intro name value h
    rw [hget] at h
    cases hpresent : present name with
    | false => simp [hpresent] at h
    | true =>
      rw [hpresent, if_pos rfl] at h
      obtain ⟨value, hvalue, rfl⟩ := Option.map_eq_some_iff.mp h
      obtain ⟨members, rfl⟩ := htable name value hvalue
      exact ⟨_, rfl⟩
  · intro name key
    rw [sectionOf, sectionOf, hget]
    cases hpresent : present name with
    | false => rfl
    | true =>
      cases hvalue : config.toTable.get? name with
      | none => simp [Table.get?]
      | some value =>
        obtain ⟨members, rfl⟩ := htable name value hvalue
        exact get?_filter (chosen name) members key

theorem select_all (config : Config) :
    config.select (fun _ => true) (fun _ _ => true) = config.toTable := by
  have hrestrict : ∀ value, restrict (fun _ => true) value = value := by
    intro value
    cases value with
    | table members => exact congrArg Value.table (List.filter_eq_self.mpr fun _ _ => rfl)
    | text | integer | float | bool | datetime | array => rfl
  rw [select, List.filter_eq_self.mpr fun _ _ => rfl]
  simp [hrestrict]

end Selection

/-- The entries that a configuration may have no value for, by section and key. -/
def options (config : Config) : List (String × String × Option String) := [
  ("cache", "directory", config.cache.directory),
  ("network", "user_agent", config.network.userAgent),
  ("compiler", "path", config.compiler.path),
  ("python", "path", config.python.path),
  ("python", "lib_dir", config.python.libraryDirectory)]

/-- What is written for an entry that may have no value is its value, if it has one. -/
theorem get?_options (config : Config) {entry : String × String × Option String}
    (h : entry ∈ config.options) :
    (sectionOf config.toTable entry.1).get? entry.2.1 = entry.2.2.map .text := by
  have hall : Holds (fun _ _ => true) config config.toTable :=
    select_all config ▸ holds_select config (fun _ => true) fun _ _ => true
  simp only [options, List.mem_cons, List.not_mem_nil, or_false] at h
  rcases h with rfl | rfl | rfl | rfl | rfl
  · exact hall.get?_section (.head _) (by decide) _ (.head _)
  · exact hall.get?_section (.tail _ (.head _)) (by decide) _ (.tail _ (.tail _ (.head _)))
  · exact hall.get?_section (.tail _ (.tail _ (.head _))) (by decide) _ (.head _)
  · exact hall.get?_section (.tail _ (.tail _ (.tail _ (.head _)))) (by decide) _ (.head _)
  · exact hall.get?_section (.tail _ (.tail _ (.tail _ (.head _)))) (by decide) _
      (.tail _ (.tail _ (.tail _ (.head _))))

/-- A document that has some sections and keys of a configuration, with its values, is read as the
configuration that has these values and the defaults everywhere else. There is such a document for
every choice of sections and keys. The one with all of them is what is written for the
configuration, which is read back as it was: of the entries that may have no value, it holds those
that have one. The empty document is read as the default configuration. -/
theorem ofToml_keep (config : Config) (htimeout : config.network.timeout < 0x8000000000000000)
    (hredirects : config.network.maxRedirects < 0x100000000) :
    (∀ chosen document table, Toml.parse document = .ok table → Holds chosen config table →
        ofToml document = .ok (config.keep chosen)) ∧
      (∀ present chosen, ∃ document,
        Toml.render? (config.select present chosen) = some document ∧
        Toml.parse document = .ok (config.select present chosen) ∧
        Holds (fun name key => present name && chosen name key) config
          (config.select present chosen) ∧
        ofToml document = .ok (config.keep fun name key => present name && chosen name key)) ∧
      (∃ document, config.toToml? = some document ∧ ofToml document = .ok config) ∧
      (∀ entry ∈ config.options,
        (sectionOf config.toTable entry.1).get? entry.2.1 = entry.2.2.map .text) ∧
      ofToml "" = .ok {} := by
  have htimeout' : config.network.timeout < 0x10000000000000000 := by omega
  have hread : ∀ chosen document table, Toml.parse document = .ok table →
      Holds chosen config table → ofToml document = .ok (config.keep chosen) := by
    intro chosen document table hparse h
    rw [ofToml, hparse]
    exact h.ofTable_eq htimeout' hredirects
  have hselect : ∀ present chosen, ∃ document,
      Toml.render? (config.select present chosen) = some document ∧
      Toml.parse document = .ok (config.select present chosen) ∧
      Holds (fun name key => present name && chosen name key) config
        (config.select present chosen) ∧
      ofToml document = .ok (config.keep fun name key => present name && chosen name key) := by
    intro present chosen
    obtain ⟨document, hrender, hparse⟩ :=
      Toml.parse_render (isPlainDocument_select htimeout' hredirects)
    have hholds := holds_select config present chosen
    exact ⟨document, hrender, hparse, hholds, hread _ _ _ hparse hholds⟩
  obtain ⟨document, hrender, -, -, hdocument⟩ := hselect (fun _ => true) fun _ _ => true
  rw [select_all] at hrender
  exact ⟨hread, hselect, ⟨document, hrender, hdocument⟩, fun entry => get?_options config, rfl⟩

/-- A configuration with a value for everything but one entry. -/
def sampleConfig : Config where
  cache := { directory := some "C:\\cache" }
  network := { timeout := 45, maxRedirects := 3, userAgent := some "it's \"me\"" }
  compiler := { path := some "/opt/sdk\n", url := "", optimization := "-O0", strictImports := true }
  python := { preload := ["json", "'''"], libraryDirectory := some "/lib" }

theorem ofToml_keep_sampleConfig :
    sampleConfig.network.timeout < 0x8000000000000000 ∧
      sampleConfig.network.maxRedirects < 0x100000000 ∧
      Toml.parse "[network]\nmax_redirects = 3\n" =
        .ok [("network", .table [("max_redirects", .integer 3)])] ∧
      Holds (fun name key => name == "network" && key == "max_redirects") sampleConfig
        [("network", .table [("max_redirects", .integer 3)])] ∧
      ofToml "[network]\nmax_redirects = 3\n" = .ok { network := { maxRedirects := 3 } } ∧
      ∃ document, sampleConfig.toToml? = some document ∧ ofToml document = .ok sampleConfig := by
  obtain ⟨hread, hselect, hwhole, -⟩ := ofToml_keep sampleConfig (by decide) (by decide)
  obtain ⟨document, hrender, hparse, hholds, -⟩ :=
    hselect (fun name => name == "network") fun _ key => key == "max_redirects"
  have htext : Toml.render? [("network", .table [("max_redirects", .integer 3)])] =
      some "[network]\nmax_redirects = 3\n" := by rfl
  obtain rfl : "[network]\nmax_redirects = 3\n" = document :=
    Option.some.inj (htext.symm.trans hrender)
  exact ⟨by decide, by decide, hparse, hholds, hread _ _ _ hparse hholds, hwhole⟩

end Sandbox.Config
