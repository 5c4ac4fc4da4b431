import Scriptorium.Connection.Progress
import Scriptorium.Proofs.Bridge.Launch
import Scriptorium.Proofs.Workspace.Saving

/-!
# Scripts that are saved and run

A message may ask for a script to be saved before it is run.  Its path is then looked at three
times: by the save, by the workspace once more, and by the bridge, which asks for the true name of
what the path leads to.  All three come to the same file (`start_saved`), and so the interpreter is
handed the text that was sent (`saved_script_is_run`); and if the save fails, nothing is run.
-/
namespace Scriptorium

open FileSystem Scriptorium.Path

namespace Studio

/-! ## 1. What a path is run as -/

variable {w w' : Studio} {ws : Workspace} {fresh : Id} {session : SessionId} {q script : Path}
variable {spot : Spot} {info : RunInfo} {m : Machine} {files : FileSystem} {p : Path}
variable {text : String}

/-- The script of a run is the file that its path leads to, under its true name. -/
theorem script?_of_walk (hcwd : IsDir m.files w.cwd)
    (hwalk : m.files.walk w.cwd true q = .ok spot) (h : w.host.script? m q = some script) :
    script = pathOf spot.place ∧ ∃ content x, spot = .found spot.place (.file content x)
      ∧ m.files.find w.cwd true script = .ok (spot.place, .file content x) := by
  obtain ⟨hc, hf⟩ := Bridge.Host.script?_eq_some.mp h
  obtain rfl : script = pathOf spot.place := canonicalize_eq_ok hwalk hc
  obtain ⟨⟨loc, o⟩, hfind, hfile⟩ := map_eq_ok.mp hf
  have hd := isDir_startOf hcwd q
  have hs := named_allStepsOf q
  have hnames := (settled_of_walkFrom _ _ _ hd hs (walk_eq_ok.mp hwalk).2).1.names
  have hback := walkFrom_place maxLinks hd hs (walk_eq_ok.mp hwalk).2
  have hwalk' := ((walk_ofNames fun n hn => (hnames n hn).1).mp (find_eq_ok.mp hfind)).2
  obtain rfl : spot = .found loc o := Except.ok.inj (hback.symm.trans hwalk')
  cases o with
  | file content x => exact ⟨rfl, content, x, rfl, hfind⟩
  | link t => exact absurd hfile (by simp)
  | directory => exact absurd hfile (by simp)
  | device => exact absurd hfile (by simp)

/-- A run that starts is handed the true name of the file that its path leads to. -/
theorem start_script (h : w.start fresh session q = .ok (w', info)) :
    w.host.script? w.machine q = some info.script
      ∧ ∃ m child, w.machine.spawn w.bridge.settings.interpreter [info.script.bytes]
          (Bridge.directoryOf info.script) = .ok (m, child) := by
  unfold start at h
  split at h
  · exact absurd h (by simp)
  · rename_i info' link bridge machine hl
    obtain ⟨-, rfl⟩ := Prod.mk.inj (Except.ok.inj h)
    have hcase := Bridge.launches w.host w.bridge w.machine fresh w.now session q
    rw [hl] at hcase
    cases hcase with
    | started hs _ hspawn _ => exact ⟨hs, _, _, hspawn⟩

/-- A run of what a save has put at `place`, in what were the files `w.files` before and are `files`
since: it has the true name of that file, which holds the text that was sent and is below the root
of the workspace, and the interpreter was started on that name while the file was there. -/
structure SavedRun (w : Studio) (ws : Workspace) (text : String) (files : FileSystem)
    (info : RunInfo) (place : Location) (x : Bool) : Prop where
  script : info.script = pathOf place
  saved : files = w.files.put place (.file (Text.Utf8.encode text) x)
  found : files.find w.cwd true info.script = .ok (place, .file (Text.Utf8.encode text) x)
  handed : ∃ m child, (w.withFiles files).machine.spawn w.bridge.settings.interpreter
    [info.script.bytes] (Bridge.directoryOf info.script) = .ok (m, child)
  inside : ∀ root top o, ws.root = some root → w.files.walk w.cwd true root = .ok (.found top o) →
    top <+: place ∧ (o = .directory → place ≠ top)

/-- **A script that was saved and is run is the file that was saved.**  The path is resolved a
second time when the script is started, and by then the file is there; it is the same file all the
same. -/
theorem start_saved (hcwd : IsDir w.files w.cwd) (hrooted : ws.Rooted w.files w.cwd)
    (hsave : ws.write w.files w.cwd p text = .ok files)
    (hq : ws.resolve w.files w.cwd p = .ok q)
    (h : (w.withFiles files).start fresh session q = .ok (w', info)) :
    ∃ place x, SavedRun w ws text files info place x := by
  obtain ⟨hscript, hspawn⟩ := start_script h
  obtain ⟨q', spot, hq', -, hwalk, hcase⟩ := Workspace.resolve_write hcwd hrooted hsave
  obtain rfl : q' = q := Except.ok.inj (hq'.symm.trans hq)
  rcases hcase with ⟨hdev, rfl⟩ | ⟨x, hloc, rfl, hwalk'⟩
  · -- the device is no script
    obtain ⟨-, content, x, hspot, -⟩ := script?_of_walk (m := w.machine) hcwd hwalk hscript
    rw [hspot] at hdev
    exact absurd hdev (by simp)
  · obtain ⟨hname, content, y, he, hfind⟩ := script?_of_walk (hcwd.put hloc _) hwalk' hscript
    obtain ⟨-, ho⟩ := Spot.found.inj he
    rw [← ho] at hfind
    refine ⟨spot.place, x, hname, rfl, hfind, hspawn, fun root top o hw htop => ⟨?_, ?_⟩⟩
    · obtain ⟨top', htop', hbelow⟩ :=
        Workspace.within_of_resolve hw (hrooted root hw).1 hq hwalk
      obtain rfl := Except.ok.inj (htop'.symm.trans htop)
      exact hbelow
    · rintro rfl
      obtain ⟨rs, hrs, rfl⟩ := (hrooted root hw).1.spelled
      exact (hloc.ne_of_directory (settled_of_walk hrs htop).1.object).symm

end Studio

namespace Connection

/-! ## 2. From the message to the interpreter -/

variable {w : Studio} {ws : Workspace} {path text s : String}

/-- **A script that is saved and run is the file that was saved.**  If the save fails, its reason is
the one answer, and the studio is as it was.  If it succeeds, the path is resolved as it was for the
save, what becomes of the message is what becomes of the start, and a run that starts is of the file
that the save has put (`Studio.SavedRun`). -/
theorem saved_script_is_run (c : Connection) (fresh : Id) (works : Bool)
    (hcwd : IsDir w.files w.cwd) (hrooted : ws.Rooted w.files w.cwd)
    (hs : ClientMessage.ofText s = .ok (.run path (some text))) :
    (∀ e, ws.write w.files w.cwd (.ofString path) text = .error e →
        c.receive w ws fresh works (.text s) = (c.reply (.runFailed none e.message e.code), w))
      ∧ ∀ files, ws.write w.files w.cwd (.ofString path) text = .ok files →
        ∃ q, ws.resolve w.files w.cwd (.ofString path) = .ok q
          ∧ ws.resolve files w.cwd (.ofString path) = .ok q
          ∧ (∀ e, (w.withFiles files).start fresh c.session q = .error e →
              c.receive w ws fresh works (.text s)
                = (c.reply (.ofRunError none e), w.withFiles files))
          ∧ ∀ w' info, (w.withFiles files).start fresh c.session q = .ok (w', info) →
              c.receive w ws fresh works (.text s) = (c.note (.started info), w')
              ∧ ∃ place x, w.SavedRun ws text files info place x := by
  have hreceive : c.receive w ws fresh works (.text s)
      = (c.note (w.runScript ws fresh c.session (.ofString path) (some text)).2,
        (w.runScript ws fresh c.session (.ofString path) (some text)).1) := by
    simp only [receive, hs]
    rfl
  rw [hreceive]
  refine ⟨fun e he => ?_, fun files hf => ?_⟩
  · simp only [Studio.runScript, Studio.saveScript, he]
    rfl
  obtain ⟨q, spot, hq, hq', -, -⟩ := Workspace.resolve_write hcwd hrooted hf
  have hagain : ws.resolve (w.withFiles files).files (w.withFiles files).cwd (.ofString path)
      = .ok q := hq'
  refine ⟨q, hq, hq', fun e he => ?_, fun w' info hstart => ⟨?_, ?_⟩⟩
  · simp only [Studio.runScript, Studio.saveScript, hf, Except.map, hagain, he, note]
  · simp only [Studio.runScript, Studio.saveScript, hf, Except.map, hagain, hstart]
  · exact Studio.start_saved hcwd hrooted hf hq hstart

/-- A studio whose only interpreter reads a script out.  In the directory `r` the link `k` leads to
the directory `d`, which is empty. -/
def savingStudio : Studio where
  machine := { files := ⟨[([[0x62]], .directory),
    ([[0x62], [0x63]], .file (Machine.imageOf "cat") true), ([[0x72]], .directory),
    ([[0x72], [0x64]], .directory), ([[0x72], [0x6B]], .link (.ofString "d"))]⟩ }
  bridge := { settings := { interpreter := "/b/c" } }
  cwd := []

/-- A script is saved through a link and run: the interpreter is handed the new file by its true
name. -/
theorem linked_script_saved :
    let c : Connection := { id := .ofNat 1, channel := 0 }
    ∃ w info place x,
      c.receive savingStudio ⟨some (.ofString "/r")⟩ (.ofNat 7) true
          (.text "\x7b\"type\":\"run\",\"path\":\"k/s\",\"content\":\"hi\"\x7d")
        = (c.note (.started info), w)
      ∧ info.script = .ofString "/r/d/s" ∧ info.script = pathOf place ∧ [[0x72]] <+: place
      ∧ (savingStudio.files.put [[0x72], [0x64], [0x73]] (.file [0x68, 0x69] false)).find [] true
          info.script = .ok (place, .file (Text.Utf8.encode "hi") x) := by
  intro c
  have hs : ClientMessage.ofText "\x7b\"type\":\"run\",\"path\":\"k/s\",\"content\":\"hi\"\x7d"
      = .ok (.run "k/s" (some "hi")) := by cbv
  have htop : savingStudio.files.walk [] true (.ofString "/r")
      = .ok (.found [[0x72]] .directory) := by cbv
  have hrooted : (⟨some (.ofString "/r")⟩ : Workspace).Rooted savingStudio.files [] := by
    rintro root ⟨⟩
    exact ⟨⟨by cbv, by cbv⟩, _, _, htop⟩
  have hsave : (⟨some (.ofString "/r")⟩ : Workspace).write savingStudio.files [] (.ofString "k/s")
      "hi" = .ok (savingStudio.files.put [[0x72], [0x64], [0x73]] (.file [0x68, 0x69] false)) := by
    cbv
  have hres : (⟨some (.ofString "/r")⟩ : Workspace).resolve savingStudio.files []
      (.ofString "k/s") = .ok (.ofString "/r/k/s") := by
    cbv
  have hstart : ((savingStudio.withFiles (savingStudio.files.put [[0x72], [0x64], [0x73]]
      (.file [0x68, 0x69] false))).start (.ofNat 7) c.session (.ofString "/r/k/s")).toOption.map
        (·.2.script) = some (.ofString "/r/d/s") := by
    cbv
  obtain ⟨⟨w, info⟩, hstart, hscript⟩ := Option.map_eq_some_iff.mp hstart
  obtain ⟨-, hsaved⟩ := saved_script_is_run c (.ofNat 7) true (.root _) hrooted hs
  obtain ⟨q, hq, -, -, hstarted⟩ := hsaved _ hsave
  obtain rfl : .ofString "/r/k/s" = q := Except.ok.inj (hres.symm.trans hq)
  obtain ⟨hreceive, place, x, hsaved⟩ := hstarted w info (toOption_eq_some.mp hstart)
  exact ⟨w, info, place, x, hreceive, hscript, hsaved.script, (hsaved.inside _ _ _ rfl htop).1,
    hsaved.found⟩

end Connection
end Scriptorium
