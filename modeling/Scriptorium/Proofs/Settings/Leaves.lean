import Mathlib
import Scriptorium.Proofs.FileSystem.Walk
import Scriptorium.Proofs.Settings.Layers
import Scriptorium.Proofs.Succeeds

/-!
# Settings one by one

There are twelve settings in four sections (`Setting`).  Each of them is read from one place of what
all layers give together, and from nowhere else: the slots of the other settings leave it as it is
(`Reads`).  So a setting has the value of the highest layer that gives it, and its default if none
does (`load_takes_highest`).
-/
namespace Scriptorium.Settings

/-! ## 1. The slots of a section -/

section Slots

variable {σ τ α : Type} {name : String} {c : Conversion α} {get : σ → α}
variable {f : Slot σ} {slots : List (Slot σ)} {g : Given} {s s' : σ}

/-- A value is read where one was given, and the default is taken where none was. -/
def readOr (c : Conversion α) (default : α) : Option Given → Except Unsuitable α
  | some g => c g
  | none => .ok default

/-- A slot leaves a part of the section as it is. -/
def Slot.Keeps (f : Slot σ) (get : σ → α) : Prop :=
  ∀ g s s', f.read g s = .ok s' → get s' = get s

/-- A slot reads a part of the section. -/
def Slot.Stores (f : Slot σ) (c : Conversion α) (get : σ → α) : Prop :=
  ∀ g s s', f.read g s = .ok s' → c g = .ok (get s')

@[simp] theorem keeps_slot {c : Conversion τ} {store : τ → σ → σ}
    (h : ∀ v s, get (store v s) = get s) : (slot name c store).Keeps get := by
  intro g s s' hr
  obtain ⟨v, -, rfl⟩ := map_eq_ok.mp hr
  exact h v s

theorem stores_slot {store : α → σ → σ} (h : ∀ v s, get (store v s) = v) :
    (slot name c store).Stores c get := by
  intro g s s' hr
  obtain ⟨v, hv, rfl⟩ := map_eq_ok.mp hr
  rw [hv, h v s]

theorem stores_map {c' : Conversion τ} {store : τ → σ → σ} {turn : τ → α}
    (h : ∀ v s, get (store v s) = turn v) :
    (slot name c' store).Stores (fun g => (c' g).map turn) get := by
  intro g s s' hr
  obtain ⟨v, hv, rfl⟩ := map_eq_ok.mp hr
  rw [h v s]
  exact map_eq_ok.mpr ⟨v, hv, rfl⟩

/-- Of the slots of a section, the one with this name reads this part, and the others leave it as it
is. -/
def Reads (slots : List (Slot σ)) (name : String) (c : Conversion α) (get : σ → α) : Prop :=
  ∀ g s s', slotsByName g slots s = .ok s' → readOr c (get s) (g.member? name) = .ok (get s')

/-- Reading a section leaves a part of it as it is, if none of its settings is stored there. -/
theorem slotsByName_keeps (h : ∀ f ∈ slots, f.Keeps get)
    (hs : slotsByName g slots s = .ok s') : get s' = get s := by
  induction slots generalizing s with
  | nil => exact congrArg get (Except.ok.inj hs).symm
  | cons f slots ih =>
    have hrest : ∀ f ∈ slots, f.Keeps get := fun e he => h e (List.mem_cons_of_mem f he)
    rw [slotsByName] at hs
    split at hs
    · exact ih hrest hs
    · obtain ⟨s₁, hread, hs⟩ := bind_eq_ok.mp hs
      rw [ih hrest hs]
      exact h f List.mem_cons_self _ _ _ (mapError_eq_ok.mp hread)

/-- The setting that is stored in a part is the only one to decide it, wherever its name stands
among the others. -/
theorem reads_here (hf : f.Stores c get) (h : ∀ e ∈ slots, e.Keeps get) :
    Reads (f :: slots) f.name c get := by
  intro g s s' hs
  rw [slotsByName] at hs
  split at hs
  · rename_i hnone
    rw [hnone, slotsByName_keeps h hs]
    rfl
  · rename_i v hv
    obtain ⟨s₁, hread, hs⟩ := bind_eq_ok.mp hs
    rw [hv, slotsByName_keeps h hs]
    exact hf _ _ _ (mapError_eq_ok.mp hread)

theorem reads_later (hf : f.Keeps get) (h : Reads slots name c get) :
    Reads (f :: slots) name c get := by
  intro g s s' hs
  rw [slotsByName] at hs
  split at hs
  · exact h _ _ _ hs
  · obtain ⟨s₁, hread, hs⟩ := bind_eq_ok.mp hs
    rw [← hf _ _ _ (mapError_eq_ok.mp hread)]
    exact h _ _ _ hs

/-- The slot at a place of a section reads this part if the others leave it as it is. -/
theorem reads_at (i : Nat) (hi : slots[i]? = some f) (hn : f.name = name) (hf : f.Stores c get)
    (hk : ∀ e ∈ slots.eraseIdx i, e.Keeps get) : Reads slots name c get := by
  subst hn
  induction slots generalizing i with
  | nil => exact absurd hi (by simp)
  | cons d slots ih =>
    cases i with
    | zero =>
      obtain rfl := Option.some.inj hi
      exact reads_here hf hk
    | succ i =>
      have hrest : ∀ e ∈ slots.eraseIdx i, e.Keeps get :=
        fun e he => hk e (List.mem_cons_of_mem d he)
      exact reads_later (hk d List.mem_cons_self) (ih i hi hrest)

end Slots

/-! ## 2. Sections and settings -/

/-- The sections. -/
inductive Section where
  | server
  | bridge
  | workspace
  | logging
  deriving DecidableEq, Repr

namespace Section

/-- What a section holds. -/
abbrev Kind : Section → Type
  | .server => ServerSettings
  | .bridge => RunSettings
  | .workspace => WorkspaceSettings
  | .logging => LoggingSettings

/-- The name of a section. -/
def name : Section → String
  | .server => "server"
  | .bridge => "bridge"
  | .workspace => "workspace"
  | .logging => "logging"

/-- The slots of a section. -/
def slots : (sec : Section) → List (Slot sec.Kind)
  | .server => serverSlots
  | .bridge => runSlots
  | .workspace => workspaceSlots
  | .logging => loggingSlots

/-- The defaults of a section. -/
def defaults : (sec : Section) → sec.Kind
  | .server => ({} : ServerSettings)
  | .bridge => ({} : RunSettings)
  | .workspace => ({} : WorkspaceSettings)
  | .logging => ({} : LoggingSettings)

/-- How a section is read. -/
def read : (sec : Section) → Conversion sec.Kind
  | .server => sectionOf "ServerConfig" serverSlots {}
  | .bridge => sectionOf "BridgeConfig" runSlots {}
  | .workspace => sectionOf "WorkspaceConfig" workspaceSlots {}
  | .logging => sectionOf "LoggingConfig" loggingSlots {}

/-- The section of all settings. -/
def get : (sec : Section) → Settings → sec.Kind
  | .server => Settings.server
  | .bridge => Settings.bridge
  | .workspace => Settings.workspace
  | .logging => Settings.logging

/-- Each section is read from its own name. -/
theorem reads : (sec : Section) → Reads sectionSlots sec.name sec.read sec.get
  | .server => reads_at 0 rfl rfl (stores_slot fun _ _ => rfl) (by simp [sectionSlots, get])
  | .bridge => reads_at 1 rfl rfl (stores_slot fun _ _ => rfl) (by simp [sectionSlots, get])
  | .workspace => reads_at 2 rfl rfl (stores_slot fun _ _ => rfl) (by simp [sectionSlots, get])
  | .logging => reads_at 3 rfl rfl (stores_slot fun _ _ => rfl) (by simp [sectionSlots, get])

end Section

/-- The settings. -/
inductive Setting where
  | host
  | port
  | webUiDir
  | allowedOrigins
  | accessToken
  | interpreter
  | maxBufferBytes
  | runTimeoutSecs
  | concurrentRuns
  | readChunkBytes
  | root
  | directory
  deriving DecidableEq, Repr

namespace Setting

/-- What a setting holds. -/
abbrev Kind : Setting → Type
  | .host | .interpreter => String
  | .port => UInt16
  | .webUiDir | .accessToken | .root | .directory => Option String
  | .allowedOrigins => List String
  | .maxBufferBytes | .runTimeoutSecs | .readChunkBytes => UInt64
  | .concurrentRuns => RunPolicy

/-- The section of a setting. -/
abbrev sec : Setting → Section
  | .host | .port | .webUiDir | .allowedOrigins | .accessToken => .server
  | .interpreter | .maxBufferBytes | .runTimeoutSecs | .concurrentRuns | .readChunkBytes => .bridge
  | .root => .workspace
  | .directory => .logging

/-- The name of a setting in its section. -/
def key : Setting → String
  | .host => "host"
  | .port => "port"
  | .webUiDir => "web_ui_dir"
  | .allowedOrigins => "allowed_origins"
  | .accessToken => "access_token"
  | .interpreter => "interpreter"
  | .maxBufferBytes => "max_buffer_bytes"
  | .runTimeoutSecs => "run_timeout_secs"
  | .concurrentRuns => "concurrent_runs"
  | .readChunkBytes => "read_chunk_bytes"
  | .root => "root"
  | .directory => "directory"

/-- How a setting is read. -/
def read : (k : Setting) → Conversion k.Kind
  | .host | .interpreter => text
  | .port => fun g => (shortNatural g).map Nat.toUInt16
  | .webUiDir | .accessToken | .root | .directory => optional text
  | .allowedOrigins => listOf text
  | .maxBufferBytes | .runTimeoutSecs | .readChunkBytes => fun g => (natural g).map Nat.toUInt64
  | .concurrentRuns => policy

/-- The setting of a section. -/
def pick : (k : Setting) → k.sec.Kind → k.Kind
  | .host => ServerSettings.host
  | .port => ServerSettings.port
  | .webUiDir => ServerSettings.webUiDir
  | .allowedOrigins => ServerSettings.allowedOrigins
  | .accessToken => ServerSettings.accessToken
  | .interpreter => RunSettings.interpreter
  | .maxBufferBytes => RunSettings.maxBufferBytes
  | .runTimeoutSecs => RunSettings.runTimeoutSecs
  | .concurrentRuns => RunSettings.concurrentRuns
  | .readChunkBytes => RunSettings.readChunkBytes
  | .root => WorkspaceSettings.root
  | .directory => LoggingSettings.directory

/-- The setting among all settings. -/
def get (k : Setting) (s : Settings) : k.Kind := k.pick (k.sec.get s)

/-- Each setting is read from its own name in its section. -/
theorem reads : (k : Setting) → Reads k.sec.slots k.key k.read k.pick
  | .host => reads_at 0 rfl rfl (stores_slot fun _ _ => rfl)
    (by simp [Section.slots, serverSlots, pick])
  | .port => reads_at 1 rfl rfl (stores_map fun _ _ => rfl)
    (by simp [Section.slots, serverSlots, pick])
  | .webUiDir => reads_at 2 rfl rfl (stores_slot fun _ _ => rfl)
    (by simp [Section.slots, serverSlots, pick])
  | .allowedOrigins => reads_at 3 rfl rfl (stores_slot fun _ _ => rfl)
    (by simp [Section.slots, serverSlots, pick])
  | .accessToken => reads_at 4 rfl rfl (stores_slot fun _ _ => rfl)
    (by simp [Section.slots, serverSlots, pick])
  | .interpreter => reads_at 0 rfl rfl (stores_slot fun _ _ => rfl)
    (by simp [Section.slots, runSlots, pick])
  | .maxBufferBytes => reads_at 1 rfl rfl (stores_map fun _ _ => rfl)
    (by simp [Section.slots, runSlots, pick])
  | .runTimeoutSecs => reads_at 2 rfl rfl (stores_map fun _ _ => rfl)
    (by simp [Section.slots, runSlots, pick])
  | .concurrentRuns => reads_at 3 rfl rfl (stores_slot fun _ _ => rfl)
    (by simp [Section.slots, runSlots, pick])
  | .readChunkBytes => reads_at 4 rfl rfl (stores_map fun _ _ => rfl)
    (by simp [Section.slots, runSlots, pick])
  | .root => reads_at 0 rfl rfl (stores_slot fun _ _ => rfl)
    (by simp [Section.slots, workspaceSlots, pick])
  | .directory => reads_at 0 rfl rfl (stores_slot fun _ _ => rfl)
    (by simp [Section.slots, loggingSlots, pick])

theorem get_default (k : Setting) : k.get {} = k.pick k.sec.defaults := by
  cases k <;> rfl

/-- What was given for the setting. -/
def given? (k : Setting) (g : Given) : Option Given := g.at? [k.sec.name, k.key]

/-- What a layer gives for the setting. -/
def givenBy? (k : Setting) (layer : Layer) : Option Given := layer.gives? k.sec.name k.key

end Setting

/-! ## 3. Reading all settings -/

open Given

theorem Section.read_table (sec : Section) {t : Given} (ht : t.isTable = true) :
    sec.read t = slotsByName t sec.slots sec.defaults := by
  cases t with
  | table o ms => cases sec <;> rfl
  | _ => exact absurd ht (by simp [isTable])

/-- **A setting is what was given for it, and its default if nothing was.**  There is one slot for
each setting, and no other slot writes where it does. -/
theorem get_of_ofGiven {g : Given} {s : Settings} (k : Setting) (hg : InOrder k.sec.name g)
    (h : ofGiven g = .ok s) : readOr k.read (k.get {}) (k.given? g) = .ok (k.get s) := by
  have hall : slotsByName g sectionSlots {} = .ok s := by
    cases g with
    | table o ms => exact h
    | _ => exact absurd hg.isTable (by simp [isTable])
  have hsec := k.sec.reads g _ _ hall
  rw [Setting.given?, at?_pair, k.get_default]
  cases hm : g.member? k.sec.name with
  | none =>
    rw [hm] at hsec
    have hdefault : k.sec.get {} = k.sec.get s := Except.ok.inj hsec
    rw [Setting.get, ← hdefault, ← Setting.get, k.get_default]
    rfl
  | some t =>
    rw [hm, readOr, k.sec.read_table (hg.section_isTable t hm)] at hsec
    exact k.reads t _ _ hsec

variable {env : List (String × String)} {fs : FileSystem} {cwd : Location} {s : Settings}
variable {k : Setting} {default surroundings here : Layer}

/-- The three files that give settings. -/
structure Files (env : List (String × String)) (fs : FileSystem) (cwd : Location)
    (default surroundings here : Layer) : Prop where
  default_eq : ofFile fs cwd "config/default" = .ok default
  surroundings_eq : ofFile fs cwd ("config/" ++ (valueOf? "DAAD_ENV" env).getD "development")
    = .ok surroundings
  here_eq : ofFile fs cwd "config/local" = .ok here

/-- All layers, the lowest first. -/
def allLayers (env : List (String × String)) (default surroundings here : Layer) : List Layer :=
  [builtIn, default, surroundings, here, ofEnvironment env]

/-- A load succeeds if the files do and what all layers give can be read. -/
theorem load_eq_ok : load env fs cwd = .ok s ↔ ∃ default surroundings here,
    Files env fs cwd default surroundings here
      ∧ ofGiven (combined (allLayers env default surroundings here)) = .ok s := by
  have hlayers {ls : List Layer} : layers env fs cwd = .ok ls ↔ ∃ default surroundings here,
      Files env fs cwd default surroundings here
        ∧ allLayers env default surroundings here = ls := by
    simp only [layers, fileNames, List.mapM_cons, List.mapM_nil]
    constructor
    · intro h
      obtain ⟨files, hfiles, h⟩ := bind_eq_ok.mp h
      obtain ⟨default, hdefault, hfiles⟩ := bind_eq_ok.mp hfiles
      obtain ⟨rest, hrest, hfiles⟩ := bind_eq_ok.mp hfiles
      obtain ⟨surroundings, hsurroundings, hrest⟩ := bind_eq_ok.mp hrest
      obtain ⟨last, hlast, hrest⟩ := bind_eq_ok.mp hrest
      obtain ⟨here, hhere, hlast⟩ := bind_eq_ok.mp hlast
      obtain rfl := Except.ok.inj hfiles
      obtain rfl := Except.ok.inj hrest
      obtain rfl := Except.ok.inj hlast
      exact ⟨default, surroundings, here, ⟨hdefault, hsurroundings, hhere⟩, Except.ok.inj h⟩
    · rintro ⟨default, surroundings, here, ⟨hdefault, hsurroundings, hhere⟩, rfl⟩
      rw [hdefault, hsurroundings, hhere]
      rfl
  unfold load
  split
  · rename_i hfail
    refine ⟨fun h => absurd h (by simp), fun ⟨_, _, _, hfiles, _⟩ => ?_⟩
    exact absurd (hfail.symm.trans (hlayers.mpr ⟨_, _, _, hfiles, rfl⟩)) (by simp)
  · rename_i ls hls
    obtain ⟨default, surroundings, here, hfiles, rfl⟩ := hlayers.mp hls
    rw [mapError_eq_ok]
    refine ⟨fun h => ⟨_, _, _, hfiles, h⟩, fun ⟨_, _, _, hfiles', h⟩ => ?_⟩
    rwa [← Except.ok.inj (hls.symm.trans (hlayers.mpr ⟨_, _, _, hfiles', rfl⟩))] at h

theorem isNamed_of_mem_allLayers (hf : Files env fs cwd default surroundings here) :
    ∀ l ∈ allLayers env default surroundings here, l.IsNamed := by
  simp only [allLayers, List.forall_mem_cons]
  exact ⟨Layer.isNamed_builtIn, Layer.isNamed_ofFile hf.default_eq,
    Layer.isNamed_ofFile hf.surroundings_eq, Layer.isNamed_ofFile hf.here_eq,
    Layer.isNamed_ofEnvironment env, by simp⟩

/-- Where there are no files, they give nothing. -/
theorem files_of_no_file (env : List (String × String)) (h : ∀ p, isFile fs cwd p = false) :
    Files env fs cwd [] [] [] := by
  have hfor (p : Path) : fileFor? fs cwd p = none := by
    rw [fileFor?, if_neg (by simp [h]), List.find?_eq_none]
    rintro ⟨q, f⟩ -
    simp [h]
  have hnone (name : String) : ofFile fs cwd name = .ok [] := by rw [ofFile, hfor]
  exact ⟨hnone _, hnone _, hnone _⟩

/-- There is no file on a disk with nothing but its root directory. -/
theorem isFile_empty (p : Path) : isFile .empty [] p = false := by
  unfold isFile FileSystem.find
  cases hw : FileSystem.empty.walk [] true p with
  | error e => rfl
  | ok spot =>
    obtain ⟨-, hfrom⟩ := FileSystem.walk_eq_ok.mp hw
    obtain ⟨hset, -⟩ := FileSystem.settled_of_walkFrom _ _ _
      (FileSystem.isDir_startOf (.root _) p) (FileSystem.named_allStepsOf p) hfrom
    cases spot with
    | free dir n => rfl
    | found loc o =>
      have ho : FileSystem.empty.object? loc = some o := hset.object
      obtain rfl : o = .directory := by
        simp only [FileSystem.object?, FileSystem.empty, FileSystem.lookup] at ho
        split at ho
        · exact (Option.some.inj ho).symm
        · exact absurd ho (by simp)
      rfl

/-- **Every setting has the value of the highest layer that gives it.**  The layers are what is
built in, the three files, each of which may be missing, and the environment, from the lowest to the
highest.  As far as a setting goes, the files and the environment are parts of tables of settings.
If a load succeeds, the setting is what is read from the value that the highest layer gives which
gives one, and its default if none does.  And a layer that does not give a setting does not change
what those below it give. -/
theorem load_takes_highest (h : load env fs cwd = .ok s) :
    ∃ default surroundings here, Files env fs cwd default surroundings here
      ∧ ∀ k : Setting,
        (∀ l ∈ [default, surroundings, here, ofEnvironment env],
          l.IsPartial k.sec.name k.key) →
        readOr k.read (k.get {}) ((k.givenBy? (ofEnvironment env)).or <| (k.givenBy? here).or <|
            (k.givenBy? surroundings).or <| (k.givenBy? default).or <| k.givenBy? builtIn)
          = .ok (k.get s)
        ∧ ∀ l ∈ [default, surroundings, here, ofEnvironment env], k.givenBy? l = none →
          ∀ g, k.given? (l.onto g) = k.given? g := by
  obtain ⟨default, surroundings, here, hf, h⟩ := load_eq_ok.mp h
  refine ⟨default, surroundings, here, hf, fun k hpartial => ⟨?_, fun l hl hnone g => ?_⟩⟩
  · have hn := isNamed_of_mem_allLayers hf
    have hp : ∀ l ∈ allLayers env default surroundings here, l.IsPartial k.sec.name k.key :=
      List.forall_mem_cons.mpr ⟨Layer.isPartial_builtIn _ _, hpartial⟩
    have hread := get_of_ofGiven k (inOrder_combined hn hp) h
    have above (l : Layer) (ls : List Layer) : (l :: ls).findSome? k.givenBy?
        = (k.givenBy? l).or (ls.findSome? k.givenBy?) := by
      rw [List.findSome?_cons]
      cases k.givenBy? l <;> rfl
    rw [Setting.given?, at?_combined hn hp] at hread
    change readOr k.read (k.get {}) ([ofEnvironment env, here, surroundings, default,
      builtIn].findSome? k.givenBy?) = .ok (k.get s) at hread
    simpa only [above, List.findSome?_nil, Option.or_none] using hread
  · have hn := isNamed_of_mem_allLayers hf l (List.mem_cons_of_mem _ hl)
    rw [Setting.given?, at?_onto hn (hpartial l hl), ← Setting.givenBy?, hnone]
    rfl

/-- A disk with one file of settings. -/
def settingsDisk : FileSystem :=
  ⟨[([Text.Utf8.encode "config"], .directory),
    ([Text.Utf8.encode "config", Text.Utf8.encode "local.json"],
      .file (Text.Utf8.encode "\x7b\"server\":\x7b\"host\":\"::1\",\"port\":2\x7d\x7d") false)]⟩

/-- The file gives the host and the port, and the environment the host: so the host comes from
there, the port from the file, the interpreter is the one that is built in, and there is no root. -/
theorem settings_from_four_places :
    ∃ s, load [("DAAD_SERVER__HOST", "0.0.0.0")] settingsDisk [] = .ok s
      ∧ s.server.host = "0.0.0.0" ∧ s.server.port = 2 ∧ s.bridge.interpreter = "daad"
      ∧ s.workspace.root = none := by
  have hnone : ofFile settingsDisk [] "config/default" = .ok []
      ∧ ofFile settingsDisk [] "config/development" = .ok [] := ⟨by cbv, by cbv⟩
  have hhere : ofFile settingsDisk [] "config/local" = .ok [([.name "server"],
      .table (.file "config/local.json")
        [("host", .scalar (.file "config/local.json") (.text "::1")),
        ("port", .scalar (.file "config/local.json") (.whole 2))])] := by
    cbv
  have henv : ofEnvironment [("DAAD_SERVER__HOST", "0.0.0.0")]
      = [([.name "server", .name "host"], .scalar .environment (.text "0.0.0.0"))] := by
    cbv
  have h : load [("DAAD_SERVER__HOST", "0.0.0.0")] settingsDisk []
      = .ok { server := { host := "0.0.0.0", port := 2 } } := by
    refine load_eq_ok.mpr ⟨_, _, _, ⟨hnone.1, hnone.2, hhere⟩, ?_⟩
    rw [allLayers, henv]
    cbv
  obtain ⟨default, surroundings, here, hf, hall⟩ := load_takes_highest h
  obtain rfl := Except.ok.inj (hf.default_eq.symm.trans hnone.1)
  obtain rfl := Except.ok.inj (hf.surroundings_eq.symm.trans hnone.2)
  obtain rfl := Except.ok.inj (hf.here_eq.symm.trans hhere)
  rw [henv] at hall
  have hflat : ∀ l ∈ ([[], [], [([.name "server"], .table (.file "config/local.json")
      [("host", .scalar (.file "config/local.json") (.text "::1")),
        ("port", .scalar (.file "config/local.json") (.whole 2))])],
      [([.name "server", .name "host"], .scalar .environment (.text "0.0.0.0"))]] : List Layer),
      l.isFlat = true := by
    simp only [List.forall_mem_cons]
    exact ⟨rfl, rfl, rfl, rfl, by simp⟩
  have hhost := (hall .host fun l hl => Layer.isPartial_of_isFlat (hflat l hl) _ _).1
  refine ⟨_, h, Except.ok.inj (hhost.symm.trans ?_), rfl, rfl, rfl⟩
  cbv

end Scriptorium.Settings
