import NativeThunks.Declaration.Document

/-! Sample sets of declarations: one where everything is legal, one with some illegal members, and
one with types that get no members at all. -/
namespace NativeThunks.Samples

def location (file : String) (line : UInt32) : SourceLocation where
  file := file
  line := line
  column := 5

/-- A type with members. -/
def camera : Container :=
  { Container.ofPath "engine::Camera" with location := some (location "src/camera.rs" 10) }

/-- A type with another name on the native side. -/
def texture : Container :=
  { Container.ofPath "engine::graphics::GfxTexture" with
    nativeName := some "Texture"
    location := some (location "src/graphics/texture.rs" 4) }

/-- The managed object for a texture. -/
def textureObject (nullable : Bool) : TypeRef :=
  .nativeObject "engine::graphics::GfxTexture" nullable

/-- Legal declarations of two types. -/
def engine : DeclarationSet where
  declarations := [
    .getter camera "Enabled" .bool,
    .setter camera "Enabled" .bool,
    .getter camera "FieldOfView" (.primitive .f32),
    { Declaration.setter camera "FieldOfView" (.primitive .f32) with
      accessorVisibility := some .crate },
    { Declaration.method camera "Render" with
      params := [
        { name := "target", type := textureObject false },
        { name := "fallback", type := textureObject true },
        { name := "clear", type := .bool }] },
    { Declaration.method camera "Project" with
      params := [
        { name := "label", type := .str false },
        { name := "origin", type := .named "Vector3", mode := .ref }]
      ret := .primitive .f32 },
    { Declaration.method camera "TryGetViewport" with
      params := [
        { name := "viewport", type := .named "Viewport", mode := .out },
        { name := "visible", type := .bool, mode := .out }]
      ret := .bool },
    .getter camera "Name" (.str true),
    .setter camera "Name" (.str true),
    { Declaration.method camera "Type" with
      thisName := some "camera"
      visibility := .parent
      ret := .enum "CameraKind" .u8 },
    { Declaration.method texture "Width" with isStatic := true, ret := .primitive .u32 },
    { Declaration.method texture "Load" with
      isStatic := true
      params := [
        { name := "path", type := .str false },
        { name := "mip_levels", type := .primitive .i32 }]
      ret := .pointer "::core::ffi::c_void" true },
    { Declaration.method texture "Bind" with
      params := [
        { name := "slot", type := .primitive .i32 },
        { name := "sampler", type := textureObject false }] }]

/-- Two legal members and two illegal ones between them. -/
def mixedLegality : DeclarationSet where
  declarations := [
    .getter camera "Enabled" .bool,
    { Declaration.method camera "Bind" with
      params := [{ name := "label", type := .str false, mode := .ref }] },
    { Declaration.method camera "Active" with
      isStatic := true
      ret := .nativeObject "engine::Camera" false },
    .setter camera "Enabled" .bool]

/-- Three types that get no members, each for a reason of its own, and a legal one. -/
def invalidTypes : DeclarationSet where
  declarations := [
    .method { Container.ofPath "engine::Scene::Node" with nested := true } "Attach",
    .method { Container.ofPath "engine::Pool" with generic := true } "Grow",
    .method { Container.ofPath "engine::Light" with generated := false } "Flicker",
    .method camera "Render"]

/-- The sample sets by name. -/
def named : List (String × DeclarationSet) :=
  [("Engine", engine), ("MixedLegality", mixedLegality), ("InvalidTypes", invalidTypes)]

/-- The file that a sample set is written to. -/
def fileName : String := "declarations.json"

end NativeThunks.Samples
