import SceneLang.Geometry.Color
import SceneLang.File.Path

/-!
# Materials

What a shape is made of: a colour, an image and an opacity.  The type of the colour's components is
a parameter, doubles while a script runs and document values in a finished node.
-/

namespace SceneLang

/-- **An image that covers a surface.** -/
structure Texture where
  name : String
  url : FilePath
  deriving Repr, DecidableEq, Inhabited

/-- **What a shape is made of.** -/
structure Material (α : Type) where
  color : Option (Color α) := none
  texture : Option Texture := none
  opacity : Float := 1
  deriving Repr, Inhabited

/-- Change the components of the colour. -/
def Material.map {α β : Type} (f : α → β) (m : Material α) : Material β where
  color := m.color.map (Color.map f)
  texture := m.texture
  opacity := m.opacity

/-- **What fills the background of a scene.** -/
inductive Backdrop where
  | color (c : Color Float)
  | texture (t : Texture)
  deriving Repr, Inhabited

end SceneLang
