import Proscenium.Texture.Basic

/-!
# Loading textures by name

A loader knows a list of images by name and size; when a name is listed twice the later entry
counts. Loading gives the whole image as a texture, or a resource-load fault that names what was
missing: a stub loader says `no texture named X`, a memory loader `no image named X`.

The host's own loading treats a missing texture as unrecoverable: the fault becomes a fatal
abort.
-/

namespace Proscenium

/-- A source of whole images, known by name. -/
structure Loader where
  kind : ImageKind
  /-- Name, width and height of each image, later entries overriding earlier ones. -/
  images : List (String × Int × Int)
deriving Inhabited

namespace Loader

/-- The images a memory loader holds as standard: the card background and the symbol atlas. -/
def standard : Loader := ⟨.memory, [("Card.png", 250, 350), ("Symbols.png", 600, 600)]⟩

/-- The size of the last image listed under `name`. -/
def find? (l : Loader) (name : String) : Option (Int × Int) :=
  (l.images.reverse.find? (·.1 = name)).map (·.2)

/-- The fault for a missing image, worded by the loader's kind. -/
def missing (l : Loader) (name : String) : Fault :=
  match l.kind with
  | .stub => .resourceLoad ("no texture named " ++ name)
  | .memory => .resourceLoad ("no image named " ++ name)

/-- Load the whole image called `name`. -/
def load (l : Loader) (name : String) : Except Fault Texture :=
  match l.find? name with
  | some (w, h) => .ok (Texture.whole l.kind name w h)
  | none => .error (l.missing name)

/-- Load an image the program cannot run without: a missing one aborts as fatal. -/
def require (l : Loader) (name : String) : Outcome Texture :=
  match l.load name with
  | .ok t => .ok t
  | .error f => .error (Failure.fatal f)

end Loader

end Proscenium
