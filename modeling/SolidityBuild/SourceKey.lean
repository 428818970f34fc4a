import SolidityBuild.Path

/-! # Source keys

The compiler knows every source by a key. The key of a file is its path relative
to the base path, or to the working directory if there is no base path; else
relative to the first include path that holds it; else its absolute path.
-/

namespace SolidityBuild

/-- Where sources are looked for, in this order: the base path, which is absent
    if it is empty, and the include paths. -/
structure SourceRoots where
  base : Option Text
  includes : List Text
  deriving DecidableEq, Repr

namespace SourceRoots

/-- The base path, unless it is empty. -/
def givenBase? (roots : SourceRoots) : Option Text :=
  roots.base.filter (!·.isEmpty)

/-- The directories against which keys are made: without a base path the working
    directory takes its place. -/
def directories (roots : SourceRoots) (cwd : Text) : List Text :=
  roots.givenBase?.getD cwd :: roots.includes

end SourceRoots

namespace SourceKey

/-- The separators of a key are forward slashes. A backslash is one of them only
    on a host where it separates names. -/
def separators (windows : Bool) (key : List Rune) : List Rune :=
  if windows then Path.forwardSlashes key else key

/-- The key of a file, from the first directory that holds it. No symbolic link
    is followed. -/
def ofPath (cwd : Text) (windows : Bool) (roots : SourceRoots) (path : Text) : Text :=
  let source := Path.absolute cwd.toList path.toList
  let relative := (roots.directories cwd).findSome? fun directory =>
    Path.relativeTo? cwd.toList directory.toList source
  Text.ofList (separators windows (relative.getD source))

end SourceKey

end SolidityBuild
