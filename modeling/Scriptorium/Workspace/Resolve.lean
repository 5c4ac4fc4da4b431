import Scriptorium.FileSystem.Walk
import Scriptorium.Workspace.Error

/-!
# Which paths a workspace lets through

A workspace may be confined to a root directory.  A path of a confined workspace is read from the
root, folded by its text, and let through if two checks agree that it stays inside:

* by its text, the folded path has the root as its beginning (`Path.startsWith`);
* by the files that are there, the place it leads to is at or below the place the root leads to.
  The place of a path that does not exist yet is found from the longest part of it that does
  (`physical`); a link to nowhere on the way has no place, and is refused.

A workspace without a root lets every path through as it is.
-/
namespace Scriptorium

/-- The directory that requests are confined to, if there is one. -/
structure Workspace where
  root : Option Path
  deriving DecidableEq, Repr, Inhabited

namespace Workspace

/-- A workspace that every path is let through by. -/
def unconfined : Workspace := ⟨none⟩

/-- The path `p` seen from the working directory; none if it is empty. -/
def absolute? (cwd : Location) (p : Path) : Option Path :=
  if p.bytes = [] then none else some ((FileSystem.pathOf cwd).join p)

/-- A workspace confined to a directory, given by a path from the working directory. -/
def confinedTo (cwd : Location) (root : Path) : Workspace :=
  ⟨some ((absolute? cwd root).getD root).folded⟩

/-- The place that a path with these components, in reverse, leads to, whether or not something
is there.  None if a link on the way leads nowhere. -/
def physicalRev (fs : FileSystem) (cwd : Location) : List Path.Component → Option Path
  | [] =>
    match fs.canonicalize cwd ⟨[]⟩ with
    | .ok place => some place
    | .error _ => some ⟨[]⟩
  | c :: above =>
    let p := Path.ofComponents (c :: above).reverse
    match fs.canonicalize cwd p with
    | .ok place => some place
    | .error _ =>
      if (fs.readLink? cwd p).isSome then none
      else match c with
        | .name n => (physicalRev fs cwd above).map (·.entry n)
        | _ => some p

/-- The place that a folded path leads to, whether or not something is there. -/
def physical (fs : FileSystem) (cwd : Location) (p : Path) : Option Path :=
  physicalRev fs cwd p.components.reverse

/-- The place that the root of a workspace leads to. -/
def physicalRoot (fs : FileSystem) (cwd : Location) (root : Path) : Path :=
  match fs.canonicalize cwd root with
  | .ok place => place
  | .error _ => root

/-- The path to use for a requested path, or a refusal. -/
def resolve (w : Workspace) (fs : FileSystem) (cwd : Location) (p : Path) : Except Error Path :=
  match w.root with
  | none => .ok p
  | some root =>
    let resolved := (root.join p).folded
    if resolved.startsWith root then
      match physical fs cwd resolved with
      | some place =>
        if place.startsWith (physicalRoot fs cwd root) then .ok resolved else .error (.outside p)
      | none => .error (.outside p)
    else .error (.outside p)

end Workspace
end Scriptorium
