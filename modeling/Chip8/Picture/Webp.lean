import Chip8.Picture.Webp.Smoothing

/-!
# What is left of an image in a WebP file

Brightness and differences of colour are guessed square by square from what is already known, and
the frequencies of the differences from the guesses are kept as multiples of steps. `reread` is the
image that comes out when its squares have been put together and smoothed.
-/

namespace Chip8.Webp

/-- The image that is read from a WebP file of an image. -/
def reread (i : Image) : Image :=
  let tiles := (Planes.ofImage i).tiles
  let plan := Plan.ofTiles tiles
  (plan.planes (plan.keep tiles)).toImage i.width i.height

end Chip8.Webp
