/-!
# Paths

A path is a text of segments parted by slashes. This file reads a path the way its segments mean
it: repeated slashes, a slash at the end and inner dots name nothing, so `/var//mail/` and
`/var/mail/.` have the same last component. Joining and taking the parent otherwise keep the text
as it was written.
-/

namespace MailSpool.Path

/-- The segments of a text, as parted by slashes; there is always at least one. -/
def segments : List Char → List (List Char)
  | [] => [[]]
  | character :: rest =>
    if character = '/' then
      [] :: segments rest
    else
      match segments rest with
      | [] => [[character]]
      | segment :: others => (character :: segment) :: others

def unsegment : List (List Char) → List Char
  | [] => []
  | [segment] => segment
  | segment :: others => segment ++ '/' :: unsegment others

def isAbsolute (path : String) : Bool :=
  path.toList.head? = some '/'

/-- Segments in reverse order without those at the end of the path that name nothing. The first
segment of a path always stays: it tells the root, or the dot that a path starts with. -/
def dropNameless : List (List Char) → List (List Char)
  | [] => []
  | [segment] => [segment]
  | segment :: others =>
    if segment = [] ∨ segment = ['.'] then dropNameless others else segment :: others

/-- The last component of a path, when it is a name and not a root, a dot or two dots. -/
def fileName (path : String) : Option String :=
  match dropNameless (segments path.toList).reverse with
  | [] => none
  | segment :: _ =>
    if segment = [] ∨ segment = ['.'] ∨ segment = ['.', '.'] then none
    else some (String.ofList segment)

/-- The path without its last component. A single relative component leaves the empty path. -/
def parent (path : String) : Option String :=
  match dropNameless (segments path.toList).reverse with
  | [] => none
  | [segment] => if segment = [] then none else some ""
  | _ :: others =>
    match dropNameless others with
    | [[]] => some "/"
    | kept => some (String.ofList (unsegment kept.reverse))

/-- The path of `path` seen from `directory`: an absolute path stands for itself. -/
def join (directory path : String) : String :=
  if isAbsolute path then path
  else
    match directory.toList.getLast? with
    | none => path
    | some '/' => directory ++ path
    | some _ => directory ++ "/" ++ path

theorem segments_ne_nil (text : List Char) : segments text ≠ [] := by
  induction text with
  | nil => simp [segments]
  | cons character rest _ =>
    unfold segments
    split
    · simp
    · split <;> simp

/-- `unsegment` gives a text back from its `segments`. -/
theorem unsegment_segments (text : List Char) : unsegment (segments text) = text := by
  induction text with
  | nil => rfl
  | cons character rest unsegmentRest =>
    unfold segments
    split
    case isTrue slash =>
      cases others : segments rest with
      | nil => exact absurd others (segments_ne_nil rest)
      | cons segment more =>
        rw [others] at unsegmentRest
        simp [unsegment, unsegmentRest, slash]
    case isFalse =>
      cases others : segments rest with
      | nil => exact absurd others (segments_ne_nil rest)
      | cons segment more =>
        rw [others] at unsegmentRest
        cases more with
        | nil => simpa [unsegment] using unsegmentRest
        | cons next last => simpa [unsegment] using unsegmentRest

theorem slash_notMem_of_mem_segments {text segment : List Char}
    (member : segment ∈ segments text) : '/' ∉ segment := by
  induction text generalizing segment with
  | nil => simp_all [segments]
  | cons character rest fromRest =>
    unfold segments at member
    split at member
    case isTrue =>
      rcases List.mem_cons.1 member with rfl | inRest
      · simp
      · exact fromRest inRest
    case isFalse other =>
      cases others : segments rest with
      | nil => exact absurd others (segments_ne_nil rest)
      | cons head tail =>
        rw [others] at member
        rcases List.mem_cons.1 member with rfl | inRest
        · have headFree : '/' ∉ head := fromRest (by simp [others])
          simpa [headFree] using fun same => other same.symm
        · exact fromRest (by simp [others, inRest])

end MailSpool.Path
