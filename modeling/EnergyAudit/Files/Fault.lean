/-!
# Faults of files

## Main definitions

* `FileFault` — why something cannot be done with a file, with `FileFault.message`.
* `WalkFault` — why the files in a directory cannot be found.
-/

namespace EnergyAudit.Files

/-- Why something cannot be done with a file. -/
inductive FileFault where
  | notFound
  | alreadyThere
  | notDirectory
  | isDirectory
  | tooManyLinks
  | nameTooLong
  | notText
  /-- Some other fault, in words. -/
  | other (message : String)
deriving BEq, DecidableEq, Repr

/-- The fault in words. -/
def FileFault.message : FileFault → String
  | notFound => "No such file or directory (os error 2)"
  | alreadyThere => "File exists (os error 17)"
  | notDirectory => "Not a directory (os error 20)"
  | isDirectory => "Is a directory (os error 21)"
  | nameTooLong => "File name too long (os error 36)"
  | tooManyLinks => "Too many levels of symbolic links (os error 40)"
  | notText => "stream did not contain valid UTF-8"
  | other message => message

/-- Why the files in a directory cannot be found. -/
inductive WalkFault where
  | unreadable (path : String) (fault : FileFault)
  /-- A link leads to a directory that it is in. -/
  | loop (path ancestor : String)
deriving BEq, DecidableEq, Repr

/-- The fault in words. -/
def WalkFault.message : WalkFault → String
  | unreadable path fault => "IO error for operation on " ++ path ++ ": " ++ fault.message
  | loop path ancestor => "File system loop found: " ++ path ++ " points to an ancestor " ++ ancestor

/-- The fault in words, with its cause behind it. -/
def WalkFault.fullMessage (f : WalkFault) : String :=
  f.message ++ match f with
    | unreadable _ fault => ": " ++ fault.message
    | loop _ _ => ""

end EnergyAudit.Files
