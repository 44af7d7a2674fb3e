/-!
# Disk faults

The causes for which an operation on files and directories is refused, with the
texts they are reported by.
-/

namespace TemplateVars

/-- Why an operation on a file or directory is refused. -/
inductive DiskFault where
  | notFound
  | alreadyExists
  /-- A step leads beneath something that is no directory. -/
  | notDirectory
  /-- A directory is where a file is wanted. -/
  | isDirectory
  | nameTooLong
  /-- A path contains a null character. -/
  | nullInName
  /-- A file holds bytes that are no text. -/
  | notText
  deriving DecidableEq

/-- The text by which a fault is reported. -/
def DiskFault.message : DiskFault → String
  | notFound => "No such file or directory (os error 2)"
  | alreadyExists => "File exists (os error 17)"
  | notDirectory => "Not a directory (os error 20)"
  | isDirectory => "Is a directory (os error 21)"
  | nameTooLong => "File name too long (os error 36)"
  | nullInName => "file name contained an unexpected NUL byte"
  | notText => "stream did not contain valid UTF-8"

end TemplateVars
