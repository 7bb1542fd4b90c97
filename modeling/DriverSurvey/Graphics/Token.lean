/-!
# Token — the numbers by which EGL and OpenGL ES name things
-/
namespace DriverSurvey

/-! ## OpenGL ES -/

namespace Gl

def noError : UInt32 := 0
def depthBufferBit : UInt32 := 0x0100
def stencilBufferBit : UInt32 := 0x0400
def colorBufferBit : UInt32 := 0x4000
def maxTextureSize : UInt32 := 0x0D33
def vendor : UInt32 := 0x1F00
def renderer : UInt32 := 0x1F01
def version : UInt32 := 0x1F02
def extensions : UInt32 := 0x1F03
def extensionCount : UInt32 := 0x821D
def maxComputeInvocations : UInt32 := 0x90EB

/-- Total memory, of the NVX extension. -/
def totalMemory : UInt32 := 0x9048
/-- Memory now available, of the NVX extension. -/
def availableMemory : UInt32 := 0x9049
/-- Four counters of free memory, of the ATI extension. -/
def freeMemory : UInt32 := 0x87FC

end Gl

/-! ## EGL -/

namespace Egl

def alphaSize : Int32 := 0x3021
def blueSize : Int32 := 0x3022
def greenSize : Int32 := 0x3023
def redSize : Int32 := 0x3024
def depthSize : Int32 := 0x3025
def stencilSize : Int32 := 0x3026
def surfaceType : Int32 := 0x3033
/-- The end of an attribute list. -/
def endOfList : Int32 := 0x3038
def renderableType : Int32 := 0x3040
def vendor : Int32 := 0x3053
def version : Int32 := 0x3054
def height : Int32 := 0x3056
def width : Int32 := 0x3057
def contextClientVersion : Int32 := 0x3098
def openGlEsApi : UInt32 := 0x30A0
def pbufferBit : Int32 := 0x0001
def es2Bit : Int32 := 0x0004
def es3Bit : Int32 := 0x0040

end Egl
end DriverSurvey
