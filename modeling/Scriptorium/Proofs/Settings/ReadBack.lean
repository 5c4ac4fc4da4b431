import Scriptorium.Proofs.Json.Floatless
import Scriptorium.Proofs.Json.Records
import Scriptorium.Proofs.Settings.Leaves
import Scriptorium.Settings.Reader

/-!
# Settings read back

What `Settings.toJson` writes is read back as the settings it was written from, and any part of it
may be left out: the settings that are kept have the values that were written, and all others have
their defaults, whether their own name was left out or their whole section
(`ofJsonText_partOf`).

What is written is the object of a list of entries, for each section and for all sections
(`Section.entries`, `sectionEntries`), so reading it back is filling a record with these entries.
-/
namespace Scriptorium.Settings

open Json Json.Reader

/-! ## 1. What is written of a section -/

def serverEntries (s : ServerSettings) : List (Entry ServerSettings) := [
  ⟨"host", .string s.host, fun t => { t with host := s.host }⟩,
  ⟨"port", .whole s.port.toNat, fun t => { t with port := s.port }⟩,
  ⟨"web_ui_dir", .optional s.webUiDir, fun t => { t with webUiDir := s.webUiDir }⟩,
  ⟨"allowed_origins", .array (s.allowedOrigins.map .string),
    fun t => { t with allowedOrigins := s.allowedOrigins }⟩,
  ⟨"access_token", .optional s.accessToken, fun t => { t with accessToken := s.accessToken }⟩]

def runEntries (s : RunSettings) : List (Entry RunSettings) := [
  ⟨"interpreter", .string s.interpreter, fun t => { t with interpreter := s.interpreter }⟩,
  ⟨"max_buffer_bytes", .whole s.maxBufferBytes.toNat,
    fun t => { t with maxBufferBytes := s.maxBufferBytes }⟩,
  ⟨"run_timeout_secs", .whole s.runTimeoutSecs.toNat,
    fun t => { t with runTimeoutSecs := s.runTimeoutSecs }⟩,
  ⟨"concurrent_runs", .string s.concurrentRuns.word,
    fun t => { t with concurrentRuns := s.concurrentRuns }⟩,
  ⟨"read_chunk_bytes", .whole s.readChunkBytes.toNat,
    fun t => { t with readChunkBytes := s.readChunkBytes }⟩]

/-- The members that a section is written as, and what each of them puts into a section. -/
def Section.entries : (sec : Section) → sec.Kind → List (Entry sec.Kind)
  | .server => serverEntries
  | .bridge => runEntries
  | .workspace => fun s => [⟨"root", .optional s.root, fun t => { t with root := s.root }⟩]
  | .logging => fun s =>
    [⟨"directory", .optional s.directory, fun t => { t with directory := s.directory }⟩]

/-- The fields that a section is read by. -/
def Section.fields : (sec : Section) → List (RecordField sec.Kind)
  | .server => ServerSettings.fields
  | .bridge => RunSettings.fields
  | .workspace => workspaceFields
  | .logging => loggingFields

section Fields

variable {σ : Type} (name : String)

theorem readAs_stringField (set : String → σ → σ) (s : String) (d : Nat) (t : σ) :
    ReadAs ((stringField name set).read d t) d (.string s) (set s t) :=
  (ReadAs.string _ s d).map

theorem readAs_optionalField (set : Option String → σ → σ) (o : Option String) (d : Nat) (t : σ) :
    ReadAs ((optionalField name set).read d t) d (.optional o) (set o t) := by
  cases o with
  | none => exact (ReadAs.optional_null _ d).map
  | some s => exact ((ReadAs.string _ s d).optional (by simp)).map

theorem readAs_naturalField {bound n : Nat} (h : n ≤ bound) (expected : String)
    {set : Nat → σ → σ} {t t' : σ} (ht : set n t = t') (d : Nat) :
    ReadAs ((naturalField name bound expected set).read d t) d (.whole n) t' :=
  ht ▸ (ReadAs.natural h expected d).map

end Fields

theorem readAs_strings (ss : List String) (d : Nat) :
    ReadAs (Reader.list (Reader.string "a string") d) d (.array (ss.map .string)) ss := by
  refine .list (fun d => ?_) d
  induction ss with
  | nil => exact .nil
  | cons s ss ih => exact .cons (.string _ s d) ih

theorem toNat_le_maxPort (n : UInt16) : n.toNat ≤ maxPort := Nat.le_of_lt_succ n.toNat_lt

theorem toNat_le_maxWhole (n : UInt64) : n.toNat ≤ maxWhole := Nat.le_of_lt_succ n.toNat_lt

theorem ofWord?_word (p : RunPolicy) : RunPolicy.ofWord? p.word = some p := by
  cases p <;> rfl

/-- The entries that the settings of the server are written as fit the fields that they are read by,
one to one. -/
theorem fits_server (s : ServerSettings) : Fits ServerSettings.fields (serverEntries s) where
  nodup := by simp [serverEntries]
  reads := by
    simp only [serverEntries, List.forall_mem_cons, List.not_mem_nil, false_imp_iff, implies_true,
      and_true]
    refine ⟨⟨_, rfl, fun d t => ?_⟩, ⟨_, rfl, fun d t => ?_⟩, ⟨_, rfl, fun d t => ?_⟩,
      ⟨_, rfl, fun d t => ?_⟩, ⟨_, rfl, fun d t => ?_⟩⟩
    · exact readAs_stringField _ _ s.host d t
    · exact readAs_naturalField _ (toNat_le_maxPort s.port) _ (by simp) d
    · exact readAs_optionalField _ _ s.webUiDir d t
    · exact (readAs_strings s.allowedOrigins d).map
    · exact readAs_optionalField _ _ s.accessToken d t

/-- The entries that the settings of runs are written as fit the fields that they are read by, one
to one. -/
theorem fits_run (s : RunSettings) : Fits RunSettings.fields (runEntries s) where
  nodup := by simp [runEntries]
  reads := by
    simp only [runEntries, List.forall_mem_cons, List.not_mem_nil, false_imp_iff, implies_true,
      and_true]
    refine ⟨⟨_, rfl, fun d t => ?_⟩, ⟨_, rfl, fun d t => ?_⟩, ⟨_, rfl, fun d t => ?_⟩,
      ⟨_, rfl, fun d t => ?_⟩, ⟨_, rfl, fun d t => ?_⟩⟩
    · exact readAs_stringField _ _ s.interpreter d t
    · exact readAs_naturalField _ (toNat_le_maxWhole s.maxBufferBytes) _ (by simp) d
    · exact readAs_naturalField _ (toNat_le_maxWhole s.runTimeoutSecs) _ (by simp) d
    · exact (ReadAs.tagged (ofWord?_word s.concurrentRuns) _ d d).map
    · exact readAs_naturalField _ (toNat_le_maxWhole s.readChunkBytes) _ (by simp) d

/-- Each member of a section is read by the field of its name. -/
theorem Section.fits : (sec : Section) → (s : sec.Kind) → Fits sec.fields (sec.entries s)
  | .server, s => fits_server s
  | .bridge, s => fits_run s
  | .workspace, s => {
      nodup := by simp [entries]
      reads := by
        simp only [entries, List.mem_singleton, forall_eq]
        exact ⟨_, rfl, fun d t => readAs_optionalField _ _ s.root d t⟩ }
  | .logging, s => {
      nodup := by simp [entries]
      reads := by
        simp only [entries, List.mem_singleton, forall_eq]
        exact ⟨_, rfl, fun d t => readAs_optionalField _ _ s.directory d t⟩ }

/-! ## 2. What is written of all settings -/

/-- A section with what is kept of another one, and the defaults of what is left out. -/
def Section.kept (keep : String → Bool) (sec : Section) (s : sec.Kind) : sec.Kind :=
  fill sec.defaults ((sec.entries s).filter fun e => keep e.name)

/-- A section as it is written. -/
def Section.toJson (sec : Section) (s : sec.Kind) : Value := objectOf (sec.entries s)

/-- The members that settings are written as, with only what is kept of each section, and what each
of them puts into the settings. -/
def sectionEntries (keep : String → String → Bool) (s : Settings) : List (Entry Settings) := [
  ⟨"server", keeping (keep "server") (Section.server.toJson s.server),
    fun t => { t with server := Section.server.kept (keep "server") s.server }⟩,
  ⟨"bridge", keeping (keep "bridge") (Section.bridge.toJson s.bridge),
    fun t => { t with bridge := Section.bridge.kept (keep "bridge") s.bridge }⟩,
  ⟨"workspace", keeping (keep "workspace") (Section.workspace.toJson s.workspace),
    fun t => { t with workspace := Section.workspace.kept (keep "workspace") s.workspace }⟩,
  ⟨"logging", keeping (keep "logging") (Section.logging.toJson s.logging),
    fun t => { t with logging := Section.logging.kept (keep "logging") s.logging }⟩]

theorem readAs_section (sec : Section) (s : sec.Kind) (keep : String → Bool) (title : String)
    (d : Nat) : ReadAs (Reader.record title sec.fields sec.defaults d) d
      (keeping keep (sec.toJson s)) (sec.kept keep s) := by
  rw [Section.toJson, keeping_objectOf]
  exact .record ((sec.fits s).filter _) title sec.defaults d

/-- Whichever sections and settings are kept, the sections that are written fit those that are read.
-/
theorem fits_sections (keep : String → String → Bool) (s : Settings) :
    Fits Settings.fields (sectionEntries keep s) where
  nodup := by simp [sectionEntries]
  reads := by
    simp only [sectionEntries, List.forall_mem_cons, List.not_mem_nil, false_imp_iff, implies_true,
      and_true]
    refine ⟨⟨_, rfl, fun d t => ?_⟩, ⟨_, rfl, fun d t => ?_⟩, ⟨_, rfl, fun d t => ?_⟩,
      ⟨_, rfl, fun d t => ?_⟩⟩
    · exact (readAs_section .server s.server _ _ d).map
    · exact (readAs_section .bridge s.bridge _ _ d).map
    · exact (readAs_section .workspace s.workspace _ _ d).map
    · exact (readAs_section .logging s.logging _ _ d).map

/-- What is written of settings, with only some of the sections and of each only some members. -/
def partOf (secs : String → Bool) (keys : String → String → Bool) (s : Settings) : Value :=
  keepingBelow keys (keeping secs s.toJson)

/-- **A part of what is written of settings is made of these entries.** -/
theorem partOf_eq (secs : String → Bool) (keys : String → String → Bool) (s : Settings) :
    partOf secs keys s
      = objectOf ((sectionEntries keys s).filter fun e => secs e.name) := by
  obtain ⟨ms, hms⟩ : ∃ ms, s.toJson = .object ms := ⟨_, rfl⟩
  have hmembers : ms.map (fun m => (m.1, keeping (keys m.1) m.2))
      = (sectionEntries keys s).map fun e => (e.name, e.value) := by
    obtain rfl := Value.object.inj hms
    rfl
  calc partOf secs keys s
      = .object ((ms.map fun m => (m.1, keeping (keys m.1) m.2)).filter fun m => secs m.1) := by
        rw [partOf, hms, keeping, keepingBelow, List.filter_map]
        rfl
    _ = objectOf ((sectionEntries keys s).filter fun e => secs e.name) := by
        rw [hmembers, objectOf, List.filter_map]
        rfl

theorem exact_optional (o : Option String) (d : Nat) : Exact d (.optional o) := by
  cases o with
  | none => exact .null
  | some s => exact .string s

theorem isWhole_toNat {n : Nat} (h : n ≤ maxWhole) : IsWhole n := ⟨by omega, Int.ofNat_le.mpr h⟩

/-- Every value that a section is written with can be read back exactly, whole numbers of 64 bits
included. -/
theorem Section.exact_entries : (sec : Section) → (s : sec.Kind) →
    ∀ e ∈ sec.entries s, ∀ d, Exact (d + 2) e.value
  | .server, s => by
    simp only [entries, serverEntries, List.forall_mem_cons, List.not_mem_nil, false_imp_iff,
      implies_true, and_true]
    refine ⟨fun d => .string _, fun d => .whole (isWhole_toNat ?_), fun d => exact_optional _ _,
      fun d => .array ?_, fun d => exact_optional _ _⟩
    · exact Nat.le_trans (toNat_le_maxPort s.port) (by decide)
    · simp only [List.mem_map, forall_exists_index, and_imp]
      rintro _ origin - rfl
      exact .string origin
  | .bridge, s => by
    simp only [entries, runEntries, List.forall_mem_cons, List.not_mem_nil, false_imp_iff,
      implies_true, and_true]
    exact ⟨fun d => .string _, fun d => .whole (isWhole_toNat (toNat_le_maxWhole _)),
      fun d => .whole (isWhole_toNat (toNat_le_maxWhole _)), fun d => .string _,
      fun d => .whole (isWhole_toNat (toNat_le_maxWhole _))⟩
  | .workspace, s => by simpa [entries] using fun d => exact_optional s.root (d + 2)
  | .logging, s => by simpa [entries] using fun d => exact_optional s.directory (d + 2)

/-- A section is read back from its text, whatever is left out of it. -/
theorem Section.exact_keeping (sec : Section) (s : sec.Kind) (keep : String → Bool) (d : Nat) :
    Exact (d + 3) (keeping keep (sec.toJson s)) := by
  rw [toJson, keeping_objectOf]
  refine .object fun m hm => ?_
  obtain ⟨e, he, rfl⟩ := List.mem_map.mp hm
  exact sec.exact_entries s e (List.mem_of_mem_filter he) d

/-- And so are all settings. -/
theorem parse_partOf (secs : String → Bool) (keys : String → String → Bool) (s : Settings) :
    parse (partOf secs keys s).render = .ok (partOf secs keys s) := by
  refine parse_render ?_
  rw [partOf_eq]
  refine Exact.object (d := 126) fun m hm => ?_
  obtain ⟨e, he, rfl⟩ := List.mem_map.mp hm
  have hsections : ∀ e ∈ sectionEntries keys s, Exact 127 e.value := by
    simp only [sectionEntries, List.forall_mem_cons, List.not_mem_nil, false_imp_iff, implies_true,
      and_true]
    exact ⟨Section.exact_keeping _ _ _ 124, Section.exact_keeping _ _ _ 124,
      Section.exact_keeping _ _ _ 124, Section.exact_keeping _ _ _ 124⟩
  exact hsections e (List.mem_of_mem_filter he)

/-! ## 3. What is read back -/

/-- Each setting is put where it belongs by the member of its name. -/
theorem Setting.puts : (k : Setting) → (s : k.sec.Kind) →
    Puts (k.sec.entries s) k.key k.pick (k.pick s)
  | .host, _ => puts_at 0 rfl rfl (fun _ => rfl) (by simp [Section.entries, serverEntries, pick])
  | .port, _ => puts_at 1 rfl rfl (fun _ => rfl) (by simp [Section.entries, serverEntries, pick])
  | .webUiDir, _ =>
    puts_at 2 rfl rfl (fun _ => rfl) (by simp [Section.entries, serverEntries, pick])
  | .allowedOrigins, _ =>
    puts_at 3 rfl rfl (fun _ => rfl) (by simp [Section.entries, serverEntries, pick])
  | .accessToken, _ =>
    puts_at 4 rfl rfl (fun _ => rfl) (by simp [Section.entries, serverEntries, pick])
  | .interpreter, _ =>
    puts_at 0 rfl rfl (fun _ => rfl) (by simp [Section.entries, runEntries, pick])
  | .maxBufferBytes, _ =>
    puts_at 1 rfl rfl (fun _ => rfl) (by simp [Section.entries, runEntries, pick])
  | .runTimeoutSecs, _ =>
    puts_at 2 rfl rfl (fun _ => rfl) (by simp [Section.entries, runEntries, pick])
  | .concurrentRuns, _ =>
    puts_at 3 rfl rfl (fun _ => rfl) (by simp [Section.entries, runEntries, pick])
  | .readChunkBytes, _ =>
    puts_at 4 rfl rfl (fun _ => rfl) (by simp [Section.entries, runEntries, pick])
  | .root, _ => puts_at 0 rfl rfl (fun _ => rfl) (by simp [Section.entries])
  | .directory, _ => puts_at 0 rfl rfl (fun _ => rfl) (by simp [Section.entries])

/-- Each section is put where it belongs by the member of its name. -/
theorem Section.puts (keys : String → String → Bool) (s : Settings) : (sec : Section) →
    Puts (sectionEntries keys s) sec.name sec.get (sec.kept (keys sec.name) (sec.get s))
  | .server => puts_at 0 rfl rfl (fun _ => rfl) (by simp [sectionEntries, get])
  | .bridge => puts_at 1 rfl rfl (fun _ => rfl) (by simp [sectionEntries, get])
  | .workspace => puts_at 2 rfl rfl (fun _ => rfl) (by simp [sectionEntries, get])
  | .logging => puts_at 3 rfl rfl (fun _ => rfl) (by simp [sectionEntries, get])

/-- A setting is the one that was kept, and its default if it or its section was left out. -/
theorem Setting.get_fill (secs : String → Bool) (keys : String → String → Bool) (s : Settings)
    (k : Setting) :
    k.get (fill {} ((sectionEntries keys s).filter fun e => secs e.name))
      = if secs k.sec.name && keys k.sec.name k.key then k.get s else k.get {} := by
  rw [Setting.get, k.sec.puts keys s secs {}, k.get_default]
  cases secs k.sec.name with
  | false => exact k.get_default
  | true =>
    rw [if_pos rfl, Section.kept, k.puts (k.sec.get s) (keys k.sec.name) k.sec.defaults]
    rfl

/-- Settings are told apart by what each of them is. -/
theorem eq_of_get {s t : Settings} (h : ∀ k : Setting, k.get s = k.get t) : s = t := by
  obtain ⟨⟨_, _, _, _, _⟩, ⟨_, _, _, _, _⟩, ⟨_⟩, ⟨_⟩⟩ := s
  obtain ⟨⟨_, _, _, _, _⟩, ⟨_, _, _, _, _⟩, ⟨_⟩, ⟨_⟩⟩ := t
  obtain rfl := h .host
  obtain rfl := h .port
  obtain rfl := h .webUiDir
  obtain rfl := h .allowedOrigins
  obtain rfl := h .accessToken
  obtain rfl := h .interpreter
  obtain rfl := h .maxBufferBytes
  obtain rfl := h .runTimeoutSecs
  obtain rfl := h .concurrentRuns
  obtain rfl := h .readChunkBytes
  obtain rfl := h .root
  obtain rfl := h .directory
  rfl

/-- A text that says a part of what is written of settings is read as that part. -/
theorem ofJsonText_eq {secs : String → Bool} {keys : String → String → Bool} {s : Settings}
    {text : String} (h : parse text = .ok (partOf secs keys s)) :
    ofJsonText text = .ok (fill {} ((sectionEntries keys s).filter fun e => secs e.name)) := by
  rw [partOf_eq] at h
  exact (ReadAs.record ((fits_sections keys s).filter _) "AppConfig" {} maxDepth).readAll h

theorem ofJsonText_toJson (s : Settings) : ofJsonText s.toJson.render = .ok s := by
  let all (_ : String) : Bool := true
  have hparse : parse s.toJson.render = .ok (partOf all (fun _ => all) s) :=
    parse_partOf all (fun _ => all) s
  rw [ofJsonText_eq hparse]
  exact congrArg _ (eq_of_get fun k => k.get_fill all (fun _ => all) s)

/-- **What is kept is read back, and everything else has its default.**  What is written of settings
is read back as these settings.  From what is written, any sections and any members of sections can
be left out: every text that says the rest, and there is one, is read as settings, in which a
setting has the value that was written if it and its section were kept, and its default if not. -/
theorem ofJsonText_partOf (s : Settings) :
    ofJsonText s.toJson.render = .ok s
      ∧ ∀ (secs : String → Bool) (keys : String → String → Bool),
        parse (partOf secs keys s).render = .ok (partOf secs keys s)
          ∧ ∀ text, parse text = .ok (partOf secs keys s) → ∃ t, ofJsonText text = .ok t
            ∧ ∀ k : Setting, k.get t
              = if secs k.sec.name && keys k.sec.name k.key then k.get s else k.get {} :=
  ⟨ofJsonText_toJson s, fun secs keys => ⟨parse_partOf secs keys s, fun _ h =>
    ⟨_, ofJsonText_eq h, fun k => k.get_fill secs keys s⟩⟩⟩

/-- Settings of which none has its default. -/
def unusual : Settings where
  server := ⟨"h\n", 1, some "u", ["o"], some ""⟩
  bridge := ⟨"i", 2, 18446744073709551615, .replace, 3⟩
  workspace := ⟨some "r"⟩
  logging := ⟨some "d"⟩

/-- One section is left out and so are all members but two of the others; the text has blanks. -/
theorem two_settings_read_back :
    ∃ text t, text = "\x7b \"server\": \x7b\"host\": \"h\\n\"\x7d, \"bridge\":
        \x7b\"run_timeout_secs\": 18446744073709551615\x7d, \"logging\": \x7b\x7d \x7d"
      ∧ parse text
        = .ok (partOf (· != "workspace") (fun _ n => n == "host" || n == "run_timeout_secs")
          unusual)
      ∧ ofJsonText text = .ok t ∧ t.server.host = "h\n" ∧ t.server.port = 8790
      ∧ t.bridge.runTimeoutSecs = 18446744073709551615 ∧ t.workspace.root = none
      ∧ t.logging.directory = none := by
  have h : parse "\x7b \"server\": \x7b\"host\": \"h\\n\"\x7d, \"bridge\":
        \x7b\"run_timeout_secs\": 18446744073709551615\x7d, \"logging\": \x7b\x7d \x7d"
      = .ok (partOf (· != "workspace") (fun _ n => n == "host" || n == "run_timeout_secs")
        unusual) := by
    cbv
  obtain ⟨t, ht, hall⟩ := ((ofJsonText_partOf unusual).2 _ _).2 _ h
  exact ⟨_, t, rfl, h, ht, hall .host, hall .port, hall .runTimeoutSecs, hall .root,
    hall .directory⟩

end Scriptorium.Settings
