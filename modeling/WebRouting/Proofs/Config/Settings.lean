import Mathlib.Logic.Relation
import WebRouting.Config
import WebRouting.Proofs.Toml.Blank

/-! # Settings of a configuration

Each setting of a configuration is found in a document by itself. `Setting.entry?` is where: under the
key of its section, and there by its own key in a table and by its place in an array. A document is
accepted if what stands in the places of sections and settings may stand there, and then each setting
is its own entry or, without one, its default (`ofToml?_eq_some_iff`). So documents that agree in the
places of settings (`SameSettings`) give the same configuration, whatever else they contain
(`load_fieldwise`). -/

namespace WebRouting

namespace Toml

/-- The entry of a table under a key. -/
def lookup? : Toml → String → Option Toml
  | .table entries, key => entries.lookup key
  | _, _ => none

/-- The entry of a table under a key, or of an array in a place. -/
def entryAt? (place : Nat) (key : String) : Toml → Option Toml
  | .table entries => entries.lookup key
  | .array items => items[place]?
  | _ => none

/-- Whether the value may be a section: a table, an array, or a date, which has no entries. -/
def isSection : Toml → Bool
  | .table _ => true
  | .array _ => true
  | .dateTime => true
  | _ => false

end Toml

namespace Config

/-! ## Places of settings -/

/-- The name of a section. -/
inductive SectionName where
  /-- The section on the server. -/
  | server
  /-- The section on routes. -/
  | routing
  /-- The section on logging. -/
  | logging

/-- A setting. -/
inductive Setting where
  /-- The host to listen on. -/
  | host
  /-- The port to listen on. -/
  | port
  /-- Whether the number of a handler's parameters is checked. -/
  | checking
  /-- The least level of what is logged. -/
  | level
  /-- Whether events are logged as JSON. -/
  | json

namespace SectionName

/-- The key of a section in a document. -/
def key : SectionName → String
  | server => "server"
  | routing => "routing"
  | logging => "logging"

/-- The keys of the settings of a section, in order. -/
def fields : SectionName → List String
  | server => ["host", "port"]
  | routing => ["checking_param"]
  | logging => ["level", "json"]

end SectionName

namespace Setting

/-- The section that a setting is in. -/
def sectionName : Setting → SectionName
  | host | port => .server
  | checking => .routing
  | level | json => .logging

/-- The key of a setting in its section. -/
def key : Setting → String
  | host => "host"
  | port => "port"
  | checking => "checking_param"
  | level => "level"
  | json => "json"

/-- The place of a setting in its section. -/
def place (s : Setting) : Nat := s.sectionName.fields.idxOf s.key

/-- The value of a setting that is not given. -/
def fallback : Setting → Toml
  | host => .string "127.0.0.1"
  | port => .int 3000
  | checking => .bool true
  | level => .string "info"
  | json => .bool false

/-- The values that a setting may have: any text, both truth values, and integers of 16 bits. -/
def Admits : Setting → Toml → Prop
  | host, v => ∃ text, v = .string text
  | port, v => ∃ n : Nat, n < 65536 ∧ v = .int n
  | checking, v => ∃ b, v = .bool b
  | level, v => ∃ text, v = .string text
  | json, v => ∃ b, v = .bool b

/-- The entry of a setting in a document: by its key where its section is a table, and by its place where
it is an array. -/
def entry? (s : Setting) (document : Toml) : Option Toml :=
  (document.lookup? s.sectionName.key).bind (Toml.entryAt? s.place s.key)

end Setting

/-- The value of a setting in a configuration, as a document would have it. -/
def value (c : Config) : Setting → Toml
  | .host => .string c.server.host
  | .port => .int c.server.port
  | .checking => .bool c.routing.checking
  | .level => .string c.logging.level
  | .json => .bool c.logging.json

/-- A default is a value that the setting may have. -/
theorem Setting.admits_fallback (s : Setting) : s.Admits s.fallback := by
  cases s with
  | port => exact ⟨3000, by decide, rfl⟩
  | _ => exact ⟨_, rfl⟩

/-- Values that settings may have are those of a configuration. -/
theorem exists_value_eq {values : Setting → Toml} (h : ∀ s : Setting, s.Admits (values s)) :
    ∃ config : Config, ∀ s, config.value s = values s := by
  obtain ⟨host, hhost⟩ := h .host
  obtain ⟨port, -, hport⟩ := h .port
  obtain ⟨checking, hchecking⟩ := h .checking
  obtain ⟨level, hlevel⟩ := h .level
  obtain ⟨json, hjson⟩ := h .json
  refine ⟨⟨⟨host, port⟩, ⟨checking⟩, ⟨level, json⟩⟩, fun s => ?_⟩
  cases s
  exacts [hhost.symm, hport.symm, hchecking.symm, hlevel.symm, hjson.symm]

/-- A document with nothing in the places of sections and settings that may not stand there. -/
@[mk_iff accepted_iff]
structure Accepted (document : Toml) : Prop where
  /-- What is in the place of a section is one. -/
  sections : ∀ (n : SectionName) v, document.lookup? n.key = some v → v.isSection = true
  /-- What is in the place of a setting is a value for it. -/
  settings : ∀ (s : Setting) v, s.entry? document = some v → s.Admits v

/-! ## Reading settings -/

/-- A setting is given a value: by an entry, if there is one, and by its default otherwise. -/
def Setting.Gives (s : Setting) (entry : Option Toml) (v : Toml) : Prop :=
  (∀ given, entry = some given → s.Admits given) ∧ v = entry.getD s.fallback

variable {α : Type}

/-- A setting is read as the value that it is given. Its default is one that may be given too. -/
theorem setting?_eq_some_iff {s : Setting} {read? : Toml → Option α} {write : α → Toml} {default : α}
    (hread : ∀ v x, read? v = some x ↔ s.Admits v ∧ v = write x)
    (hdefault : read? s.fallback = some default) (hwrite : Function.Injective write)
    (entry : Option Toml) (x : α) :
    setting? read? default entry = some x ↔ s.Gives entry (write x) := by
  cases entry with
  | none =>
    have hfallback := ((hread _ _).mp hdefault).2
    simp [setting?, Setting.Gives, hfallback, hwrite.eq_iff, eq_comm]
  | some v => simp [setting?, Setting.Gives, hread, eq_comm]

/-- A setting that admits any text. -/
theorem setting?_asString?_iff {s : Setting} {default : String} (hdefault : s.fallback = .string default)
    (hadmits : ∀ x, s.Admits (.string x)) (entry : Option Toml) (x : String) :
    setting? asString? default entry = some x ↔ s.Gives entry (.string x) := by
  refine setting?_eq_some_iff (fun v x => ?_) (by rw [hdefault]; rfl) (fun _ _ => Toml.string.inj) ..
  have hread : asString? v = some x ↔ v = .string x := by cases v <;> simp [asString?]
  rw [hread]
  exact (and_iff_right_of_imp fun h => h ▸ hadmits x).symm

/-- A setting that admits both truth values. -/
theorem setting?_asBool?_iff {s : Setting} {default : Bool} (hdefault : s.fallback = .bool default)
    (hadmits : ∀ x, s.Admits (.bool x)) (entry : Option Toml) (x : Bool) :
    setting? asBool? default entry = some x ↔ s.Gives entry (.bool x) := by
  refine setting?_eq_some_iff (fun v x => ?_) (by rw [hdefault]; rfl) (fun _ _ => Toml.bool.inj) ..
  have hread : asBool? v = some x ↔ v = .bool x := by cases v <;> simp [asBool?]
  rw [hread]
  exact (and_iff_right_of_imp fun h => h ▸ hadmits x).symm

theorem asPort?_eq_some_iff {v : Toml} {n : Nat} :
    asPort? v = some n ↔ Setting.port.Admits v ∧ v = .int n := by
  have hsize : UInt16.size = 65536 := rfl
  constructor
  · intro h
    cases v with
    | int m =>
      simp only [asPort?, hsize, Option.ite_none_right_eq_some, Option.some.injEq] at h
      obtain ⟨hbounds, rfl⟩ := h
      have hm : (m.toNat : Int) = m := Int.toNat_of_nonneg hbounds.1
      rw [← hm]
      exact ⟨⟨_, by omega, rfl⟩, by rw [Int.toNat_natCast]⟩
    | _ => cases h
  · rintro ⟨⟨m, hm, rfl⟩, hv⟩
    obtain rfl : m = n := Int.ofNat.inj (Toml.int.inj hv)
    have hbound : (m : Int) < 65536 := by omega
    simpa [asPort?, hsize] using hbound

/-- The port admits integers of 16 bits. -/
theorem setting?_asPort?_iff (entry : Option Toml) (n : Nat) :
    setting? asPort? defaultPort entry = some n ↔ Setting.port.Gives entry (.int n) :=
  setting?_eq_some_iff (s := .port) (fun _ _ => asPort?_eq_some_iff) rfl
    (fun _ _ h => Int.ofNat.inj (Toml.int.inj h)) entry n

/-! ## Reading sections -/

theorem readServer?_eq_some_iff (given : Section) (c : ServerConfig) :
    readServer? given = some c ↔ Setting.host.Gives (given 0 "host") (.string c.host) ∧
      Setting.port.Gives (given 1 "port") (.int c.port) := by
  simp only [readServer?, Option.bind_eq_bind, Option.bind_eq_some_iff,
    setting?_asString?_iff (show Setting.host.fallback = .string defaultHost from rfl) (⟨·, rfl⟩),
    setting?_asPort?_iff]
  constructor
  · rintro ⟨host, hhost, port, hport, ⟨⟩⟩
    exact ⟨hhost, hport⟩
  · rintro ⟨hhost, hport⟩
    exact ⟨_, hhost, _, hport, rfl⟩

theorem readRouting?_eq_some_iff (given : Section) (c : RoutingConfig) :
    readRouting? given = some c ↔
      Setting.checking.Gives (given 0 "checking_param") (.bool c.checking) := by
  simp only [readRouting?, Option.bind_eq_bind, Option.bind_eq_some_iff,
    setting?_asBool?_iff (show Setting.checking.fallback = .bool defaultChecking from rfl) (⟨·, rfl⟩)]
  constructor
  · rintro ⟨checking, hchecking, ⟨⟩⟩
    exact hchecking
  · intro hchecking
    exact ⟨_, hchecking, rfl⟩

theorem readLogging?_eq_some_iff (given : Section) (c : LoggingConfig) :
    readLogging? given = some c ↔ Setting.level.Gives (given 0 "level") (.string c.level) ∧
      Setting.json.Gives (given 1 "json") (.bool c.json) := by
  simp only [readLogging?, Option.bind_eq_bind, Option.bind_eq_some_iff,
    setting?_asString?_iff (show Setting.level.fallback = .string defaultLevel from rfl) (⟨·, rfl⟩),
    setting?_asBool?_iff (show Setting.json.fallback = .bool false from rfl) (⟨·, rfl⟩)]
  constructor
  · rintro ⟨level, hlevel, json, hjson, ⟨⟩⟩
    exact ⟨hlevel, hjson⟩
  · rintro ⟨hlevel, hjson⟩
    exact ⟨_, hlevel, _, hjson, rfl⟩

/-- The defaults of the sections are made of those of their settings. -/
theorem read_without_entries : readServer? (fun _ _ => none) = some {} ∧
    readRouting? (fun _ _ => none) = some {} ∧ readLogging? (fun _ _ => none) = some {} :=
  ⟨rfl, rfl, rfl⟩

/-- A section is read from the entries that it has, and one that is not given like one without
entries. -/
theorem readSection?_eq_some_iff {read? : Section → Option α} {default : α}
    (hdefault : read? (fun _ _ => none) = some default) (given : Option Toml) (x : α) :
    readSection? read? default given = some x ↔
      (∀ v, given = some v → v.isSection = true) ∧
        read? (fun place key => given.bind (Toml.entryAt? place key)) = some x := by
  cases given with
  | none => simp [readSection?, hdefault]
  | some v => cases v <;> simp [readSection?, sectionOf?, Toml.isSection, Toml.entryAt?]

/-! ## Reading documents -/

/-- **Settings one by one.** A document is accepted if what stands in the places of sections and settings
may stand there. Then each setting is its own entry, or its default if it has none. -/
theorem ofToml?_eq_some_iff (entries : List (String × Toml)) (config : Config) :
    ofToml? (.table entries) = some config ↔ Accepted (.table entries) ∧
      ∀ s : Setting, config.value s = (s.entry? (.table entries)).getD s.fallback := by
  simp only [ofToml?, sectionOf?, Option.bind_eq_bind, Option.bind_some, Option.bind_eq_some_iff,
    readSection?_eq_some_iff read_without_entries.1,
    readSection?_eq_some_iff read_without_entries.2.1,
    readSection?_eq_some_iff read_without_entries.2.2, readServer?_eq_some_iff,
    readRouting?_eq_some_iff, readLogging?_eq_some_iff]
  constructor
  · rintro ⟨server, ⟨hserver, hhost, hport⟩, routing, ⟨hrouting, hchecking⟩, logging,
      ⟨hlogging, hlevel, hjson⟩, ⟨⟩⟩
    refine ⟨⟨fun n => ?_, fun s => ?_⟩, fun s => ?_⟩
    · cases n
      exacts [hserver, hrouting, hlogging]
    · cases s
      exacts [hhost.1, hport.1, hchecking.1, hlevel.1, hjson.1]
    · cases s
      exacts [hhost.2, hport.2, hchecking.2, hlevel.2, hjson.2]
  · rintro ⟨haccepted, hvalues⟩
    have hgives (s : Setting) : s.Gives (s.entry? (.table entries)) (config.value s) :=
      ⟨haccepted.settings s, hvalues s⟩
    exact ⟨config.server, ⟨haccepted.sections .server, hgives .host, hgives .port⟩,
      config.routing, ⟨haccepted.sections .routing, hgives .checking⟩,
      config.logging, ⟨haccepted.sections .logging, hgives .level, hgives .json⟩, rfl⟩

/-- An accepted document gives a configuration. -/
theorem exists_ofToml?_iff (entries : List (String × Toml)) :
    (∃ config, ofToml? (.table entries) = some config) ↔ Accepted (.table entries) := by
  simp only [ofToml?_eq_some_iff, exists_and_left]
  refine and_iff_left_of_imp fun haccepted => exists_value_eq fun s => ?_
  cases hentry : s.entry? (.table entries) with
  | none => exact s.admits_fallback
  | some v => exact haccepted.settings s v hentry

/-! ## Documents with the same settings -/

/-- Two forms of a section, or of its absence, with the same settings. -/
inductive Variant (fields : List String) : Option Toml → Option Toml → Prop where
  /-- A section may be left out instead of being empty. -/
  | empty : Variant fields none (some (.table []))
  /-- It may be an array without items as well. -/
  | emptyArray : Variant fields none (some (.array []))
  /-- The first settings of a section may be listed in an array. -/
  | array {items : List Toml} (h : items.length ≤ fields.length) :
      Variant fields (some (.array items)) (some (.table (fields.zip items)))
  /-- Keys that are none of the settings may be there or not. -/
  | unknown {entries entries' : List (String × Toml)}
      (h : ∀ key ∈ fields, entries.lookup key = entries'.lookup key) :
      Variant fields (some (.table entries)) (some (.table entries'))

/-- Two documents have the same settings if their sections can be brought into the same form. There may
be anything under other keys. -/
def SameSettings (document document' : Toml) : Prop :=
  ∀ n : SectionName,
    Relation.EqvGen (Variant n.fields) (document.lookup? n.key) (document'.lookup? n.key)

/-- Two values, or none, are alike in the place of a section: they are as good as a section, and they
have the same entries for its settings. -/
structure Alike (n : SectionName) (given given' : Option Toml) : Prop where
  /-- Either both may be there or none. -/
  sections : (∀ v, given = some v → v.isSection = true) ↔ ∀ v, given' = some v → v.isSection = true
  /-- The entries of settings are the same. -/
  entries : ∀ s : Setting, s.sectionName = n →
    given.bind (Toml.entryAt? s.place s.key) = given'.bind (Toml.entryAt? s.place s.key)

theorem alike_equivalence (n : SectionName) : Equivalence (Alike n) where
  refl _ := ⟨.rfl, fun _ _ => rfl⟩
  symm h := ⟨h.sections.symm, fun s hs => (h.entries s hs).symm⟩
  trans h h' := ⟨h.sections.trans h'.sections, fun s hs => (h.entries s hs).trans (h'.entries s hs)⟩

theorem Setting.key_mem_fields (s : Setting) : s.key ∈ s.sectionName.fields := by
  cases s <;> decide

/-- The item for a key is in the place that the key has among all keys. -/
theorem lookup_zip {keys : List String} {key : String} (h : key ∈ keys) (items : List α) :
    (keys.zip items).lookup key = items[keys.idxOf key]? := by
  induction keys generalizing items with
  | nil => cases h
  | cons first keys ih =>
    cases items with
    | nil => rfl
    | cons item items =>
      rw [List.zip_cons_cons, List.lookup_cons, List.idxOf_cons]
      by_cases hkey : key = first
      · simp [hkey]
      · have hfirst : (key == first) = false := beq_false_of_ne hkey
        have hmem : key ∈ keys := (List.mem_cons.mp h).resolve_left hkey
        simp [hfirst, beq_false_of_ne (Ne.symm hkey), ih hmem]

/-- The forms of a section are alike. -/
theorem Variant.alike {n : SectionName} {given given' : Option Toml}
    (h : Variant n.fields given given') : Alike n given given' := by
  cases h with
  | empty => exact ⟨by simp [Toml.isSection], fun s _ => rfl⟩
  | emptyArray => exact ⟨by simp [Toml.isSection], fun s _ => rfl⟩
  | array _ =>
    refine ⟨by simp [Toml.isSection], ?_⟩
    rintro s rfl
    exact (lookup_zip s.key_mem_fields _).symm
  | unknown h =>
    refine ⟨by simp [Toml.isSection], ?_⟩
    rintro s rfl
    exact h s.key s.key_mem_fields

theorem SameSettings.alike {document document' : Toml} (h : SameSettings document document')
    (n : SectionName) : Alike n (document.lookup? n.key) (document'.lookup? n.key) :=
  (alike_equivalence n).eqvGen_iff.mp ((h n).mono fun _ _ => Variant.alike)

/-- Documents with the same settings give the same configuration or none. -/
theorem SameSettings.ofToml?_eq {entries entries' : List (String × Toml)}
    (h : SameSettings (.table entries) (.table entries')) :
    ofToml? (.table entries) = ofToml? (.table entries') := by
  have hentry (s : Setting) : s.entry? (.table entries) = s.entry? (.table entries') :=
    (h.alike s.sectionName).entries s rfl
  have haccepted : Accepted (.table entries) ↔ Accepted (.table entries') := by
    simp only [accepted_iff, hentry]
    exact and_congr_left fun _ => forall_congr' fun n => (h.alike n).sections
  ext config
  simp only [ofToml?_eq_some_iff, haccepted, hentry]

/-! ## Files -/

/-- The document that the content of a file is. -/
def document? (bytes : ByteArray) : Option Toml := (String.fromUTF8? bytes).bind Toml.read?

theorem exists_table_of_document? {bytes : ByteArray} {document : Toml}
    (h : document? bytes = some document) : ∃ entries, document = .table entries := by
  obtain ⟨text, -, hread⟩ := Option.bind_eq_some_iff.mp h
  obtain ⟨d, -, rfl⟩ := Option.map_eq_some_iff.mp hread
  exact ⟨_, rfl⟩

/-- From a file with a document the configuration in the document is loaded, if there is one. -/
theorem load_of_document? {bytes : ByteArray} {document : Toml} (h : document? bytes = some document) :
    load (some bytes) = (ofToml? document).elim (.error .invalid) .ok := by
  obtain ⟨text, htext, hread⟩ := Option.bind_eq_some_iff.mp h
  simp only [load, htext, ofText]
  split
  -- a blank text is not read, but if it were it would give the defaults too
  · next hblank =>
    rw [Toml.read?_eq_of_blank hblank hread]
    rfl
  · rw [hread, Option.bind_some]
    cases ofToml? document <;> rfl

theorem load_eq_ok_iff {bytes : ByteArray} {document : Toml} (h : document? bytes = some document)
    {config : Config} : load (some bytes) = .ok config ↔ ofToml? document = some config := by
  rw [load_of_document? h]
  cases ofToml? document <;> simp

/-- **Configurations setting by setting.** A file with a document is accepted exactly if what stands in
the places of sections and settings may stand there. Each setting is then its own entry or, without
one, its default. Other documents are loaded with the same result if they have the same settings:
where a section is left out, empty or an empty array, where it lists its first settings in an array or
has them in a table, and whatever there is under other keys. -/
theorem load_fieldwise {bytes : ByteArray} {document : Toml} (h : document? bytes = some document) :
    ((∃ config, load (some bytes) = .ok config) ↔ Accepted document) ∧
    (∀ config, load (some bytes) = .ok config →
      ∀ s : Setting, config.value s = (s.entry? document).getD s.fallback) ∧
    ∀ bytes' document', document? bytes' = some document' → SameSettings document document' →
      load (some bytes') = load (some bytes) := by
  obtain ⟨entries, rfl⟩ := exists_table_of_document? h
  refine ⟨?_, fun config hload => ?_, fun bytes' document' h' hsame => ?_⟩
  · simp only [load_eq_ok_iff h]
    exact exists_ofToml?_iff entries
  · exact ((ofToml?_eq_some_iff entries config).mp ((load_eq_ok_iff h).mp hload)).2
  · obtain ⟨entries', rfl⟩ := exists_table_of_document? h'
    rw [load_of_document? h, load_of_document? h', hsame.ofToml?_eq]

theorem document?_toUTF8 {text : String} {document : Toml} (h : Toml.read? text = some document) :
    document? text.toUTF8 = some document := by
  have htext : String.fromUTF8? text.toUTF8 = some text := dif_pos text.isValidUTF8
  rw [document?, htext]
  exact h

/-- A text with two sections, one of them empty, and a key that means nothing. -/
def tableText : String := "[server]\nhost = \"::1\"\ncolor = \"red\"\n[logging]\n"

/-- The document of the text. -/
def tableDocument : Toml :=
  .table [("server", .table [("host", .string "::1"), ("color", .string "red")]),
    ("logging", .table [])]

/-- A text with arrays instead of the sections, and a section that means nothing. -/
def arrayText : String := "server = [\"::1\"]\nlogging = []\n[extra]\nsize = 1\n"

/-- The document of that text. -/
def arrayDocument : Toml :=
  .table [("server", .array [.string "::1"]), ("logging", .array []),
    ("extra", .table [("size", .int 1)])]

/-- Both texts give the host, and the defaults of all other settings. -/
theorem load_fieldwise_arrays : Toml.read? tableText = some tableDocument ∧
    Toml.read? arrayText = some arrayDocument ∧ SameSettings tableDocument arrayDocument ∧
    ∃ config, load (some tableText.toUTF8) = .ok config ∧
      load (some arrayText.toUTF8) = .ok config ∧ config.value .host = .string "::1" ∧
      ∀ s : Setting, s ≠ .host → config.value s = s.fallback := by
  have htable : Toml.read? tableText = some tableDocument := by decide +kernel
  have harray : Toml.read? arrayText = some arrayDocument := by decide +kernel
  have hsame : SameSettings tableDocument arrayDocument := by
    intro n
    cases n with
    | server =>
      have hunknown : Variant SectionName.server.fields
          (some (.table [("host", .string "::1"), ("color", .string "red")]))
          (some (.table [("host", .string "::1")])) :=
        .unknown (by simp [SectionName.fields, List.lookup_cons])
      have hlisted : Variant SectionName.server.fields (some (.array [.string "::1"]))
          (some (.table [("host", .string "::1")])) := .array (by decide)
      exact .trans _ _ _ (.rel _ _ hunknown) (.symm _ _ (.rel _ _ hlisted))
    | routing => exact .refl _
    | logging => exact .trans _ _ _ (.symm _ _ (.rel _ _ .empty)) (.rel _ _ .emptyArray)
  have haccepted : Accepted tableDocument := by
    constructor
    · intro n v hv
      cases n <;> cases hv <;> rfl
    · intro s v hv
      cases s <;> cases hv
      exact ⟨_, rfl⟩
  obtain ⟨haccepts, hvalues, hothers⟩ := load_fieldwise (document?_toUTF8 htable)
  obtain ⟨config, hconfig⟩ := haccepts.mpr haccepted
  have hvalue := hvalues config hconfig
  refine ⟨htable, harray, hsame, config, hconfig, ?_, hvalue .host, fun s hs => ?_⟩
  · rw [hothers _ _ (document?_toUTF8 harray) hsame, hconfig]
  · rw [hvalue s]
    cases s with
    | host => exact absurd rfl hs
    | _ => rfl

end Config

end WebRouting
