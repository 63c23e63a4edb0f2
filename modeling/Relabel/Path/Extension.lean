import Relabel.Text.Basic

/-!
# File name extensions

The extension of a name runs from the last dot of its last component to its end. A dot that the
component begins with starts no extension.
-/

namespace Relabel.Path

def lastComponent (name : Text) : Text := (name.reverse.takeWhile (· ≠ '/')).reverse

def extensionLength (name : Text) : Nat :=
  let last := lastComponent name
  let suffix := last.reverse.takeWhile (· ≠ '.')
  if suffix.length + 1 < last.length then suffix.length + 1 else 0

def stem (name : Text) : Text := name.take (name.length - extensionLength name)

def extension (name : Text) : Text := name.drop (name.length - extensionLength name)

theorem stem_append_extension (name : Text) : stem name ++ extension name = name :=
  List.take_append_drop ..

end Relabel.Path
