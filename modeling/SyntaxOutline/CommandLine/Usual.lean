import SyntaxOutline.CommandLine.Request
import SyntaxOutline.CommandLine.Run
import SyntaxOutline.CommandLine.Workdir
import SyntaxOutline.Journal.Record
import SyntaxOutline.Journal.Selection

/-!
# The usual host

One host for the program to run on, put together from the reader of command lines, the selections
of a journal and the working directories of this library. It is there to try the program out. What
is said of the program is said of every host; only that this one does with its files what is
expected is made sure of here (`Workdir.lawful_files`).
-/

namespace SyntaxOutline

/-- What a filter selects, and what there is to complain of. -/
def Filter.setting : Filter → Setting
  | spelled text => .ofText text
  | upTo threshold => .ofThreshold threshold

/-- **The usual journal.** What the filter makes to complain of has a line for each complaint, and
the records are wide enough for the origins above them. -/
def Journal.usual : Journal where
  complaints filter := ofLines (filter.setting.complaints.map Complaint.message)
  records filter before events :=
    recordsFrom (widthAfter 0 (filter.setting.selection.keep before))
      (filter.setting.selection.keep events)

/-- The stream of the program that a device stands for. -/
def Device.stream? : Device → Option Stream
  | .output => some .output
  | .errors => some .errors
  | _ => none

namespace Workdir

/-- **The files of working directories.** A place is what is opened at a path, and a file is known
by the names that lead to it. -/
def files : FileSystem Workdir (List String) Place where
  contents := contents?
  create path workdir :=
    match workdir.place path with
    | .error refusal => (.error refusal.text, workdir)
    | .ok (.file names) => (.ok (.file names), workdir.store names .empty)
    | .ok place => (.ok place, workdir)
  deliver place bytes workdir :=
    match place with
    | .file names => (none, workdir.store names ((workdir.contents? names).getD .empty ++ bytes))
    | .elsewhere => (none, workdir)
    | .device device => (device.refusal?, workdir)
  file?
    | .file names => some names
    | _ => none
  stream?
    | .device device => device.stream?
    | _ => none

/-- **Working directories do what is expected of a file system.** -/
theorem lawful_files : files.Lawful where
  contents_create {path workdir opened file} hcreate hfile := by
    show contents? (files.create path workdir).2 file = _
    unfold files at hcreate ⊢
    dsimp only at hcreate ⊢
    cases hplace : workdir.place path with
    | error refusal =>
      rw [hplace] at hcreate
      cases hcreate
    | ok place =>
      rw [hplace] at hcreate
      cases place with
      | file names =>
        cases hcreate
        cases hfile
        exact contents?_store file .empty workdir
      | elsewhere =>
        cases hcreate
        cases hfile
      | device device =>
        cases hcreate
        cases hfile
  contents_create_of_ne {path workdir other} hne := by
    show contents? (files.create path workdir).2 other = contents? workdir other
    unfold files at hne ⊢
    dsimp only at hne ⊢
    cases hplace : workdir.place path with
    | error refusal => rfl
    | ok place =>
      rw [hplace] at hne
      cases place with
      | file names =>
        refine contents?_store_of_ne (fun hsame => ?_) .empty workdir
        exact hne (.file names) rfl (congrArg some hsame.symm)
      | elsewhere => rfl
      | device device => rfl
  contents_deliver {opened bytes old workdir file} htaken hfile hold := by
    cases opened with
    | file names =>
      cases hfile
      show contents? (workdir.store file ((workdir.contents? file).getD .empty ++ bytes)) file = _
      rw [contents?_store, show workdir.contents? file = some old from hold]
      rfl
    | elsewhere => cases hfile
    | device device => cases hfile
  contents_deliver_of_ne {opened bytes workdir other} hne := by
    cases opened with
    | file names => exact contents?_store_of_ne (fun hsame => hne (congrArg some hsame.symm)) _ workdir
    | elsewhere => rfl
    | device device => rfl

end Workdir

/-- **The usual host.** -/
def Host.usual : Host Workdir (List String) Place where
  read arguments :=
    match Request.ofArguments arguments with
    | .run invocation => .ok invocation
    | request => .error request.report
  journal := .usual
  files := Workdir.files

end SyntaxOutline
