import VitaLinux.Cart.FlashCheck.VideoMode

/-!
# Does the flash checker fail closed?

A pass is the permission to look at the footage. In the video mode it is one for all frames of
the recording only when ffmpeg has given them all, and ffmpeg's failures are not looked at; in
the PPM mode a file that cannot be read ends the run with 1.
-/

namespace VitaLinux.Cart.FlashCheck

open VitaLinux.Base

section video

variable {F : Type} [Zero F] [Add F] [Sub F] [Neg F] [Mul F] [Div F] [NatCast F] [OfScientific F]
  [BEq F] [LT F] [LE F] [DecidableLT F] [DecidableLE F] [Rounds F]

end video

section ppm

variable {F : Type} [Zero F] [Add F] [Mul F] [Div F] [NatCast F] [OfScientific F] [LE F]
  [DecidableLE F] [Python F]

variable [Sub F] [Neg F] [BEq F] [LT F] [DecidableLT F] [Rounds F]

def WellFormed (data : List UInt8) : Prop := ∃ width height raster, Ppm width height raster data

end ppm

end VitaLinux.Cart.FlashCheck
