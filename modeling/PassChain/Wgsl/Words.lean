/-!
Words with a fixed meaning in the shading language: those that no declaration may take, and the
names of the functions that every program can call.
-/

namespace PassChain.Wgsl

/-- Words that are keywords or are kept for later use. -/
def reservedWords : List String := [
  "alias", "break", "case", "const", "const_assert", "continue", "continuing", "default",
  "diagnostic", "discard", "else", "enable", "false", "fn", "for", "if", "let", "loop",
  "override", "requires", "return", "struct", "switch", "true", "var", "while",
  "NULL", "Self", "abstract", "active", "alignas", "alignof", "as", "asm", "asm_fragment",
  "async", "attribute", "auto", "await", "become", "binding_array", "cast", "catch", "class",
  "co_await", "co_return", "co_yield", "coherent", "column_major", "common", "compile",
  "compile_fragment", "concept", "const_cast", "consteval", "constexpr", "constinit", "crate",
  "debugger", "decltype", "delete", "demote", "demote_to_helper", "do", "dynamic_cast", "enum",
  "explicit", "export", "extends", "extern", "external", "fallthrough", "filter", "final",
  "finally", "friend", "from", "fxgroup", "get", "goto", "groupshared", "highp", "impl",
  "implements", "import", "inline", "instanceof", "interface", "layout", "lowp", "macro",
  "macro_rules", "match", "mediump", "meta", "mod", "module", "move", "mut", "mutable",
  "namespace", "new", "nil", "noexcept", "noinline", "nointerpolation", "noperspective", "null",
  "nullptr", "of", "operator", "package", "packoffset", "partition", "pass", "patch",
  "pixelfragment", "precise", "precision", "premerge", "priv", "protected", "pub", "public",
  "readonly", "ref", "regardless", "register", "reinterpret_cast", "require", "resource",
  "restrict", "self", "set", "shared", "sizeof", "smooth", "snorm", "static", "static_assert",
  "static_cast", "std", "subroutine", "super", "target", "template", "this", "thread_local",
  "throw", "trait", "try", "type", "typedef", "typeid", "typename", "typeof", "union", "unless",
  "unorm", "unsafe", "unsized", "use", "using", "varying", "virtual", "volatile", "wgsl",
  "where", "with", "writeonly", "yield"]

/-- Words that a declaration may take as its name. -/
def mayName (word : String) : Bool :=
  match word.toList with
  | ['_'] => false
  | '_' :: '_' :: _ => false
  | _ => !reservedWords.contains word

/-- Functions of one value that answer a value of the same type. -/
def mappedFunctions : List String := [
  "abs", "saturate", "cos", "cosh", "sin", "sinh", "tan", "tanh", "acos", "acosh", "asin",
  "asinh", "atan", "atanh", "radians", "degrees", "ceil", "floor", "round", "fract", "trunc",
  "exp", "exp2", "log", "log2", "normalize", "sign", "sqrt", "inverseSqrt", "dpdx",
  "dpdxCoarse", "dpdxFine", "dpdy", "dpdyCoarse", "dpdyFine", "fwidth", "fwidthCoarse",
  "fwidthFine", "countTrailingZeros", "countLeadingZeros", "countOneBits", "reverseBits",
  "firstTrailingBit", "firstLeadingBit"]

/-- Functions that sample or load a color from a texture. -/
def samplingFunctions : List String := [
  "textureSample", "textureSampleLevel", "textureSampleBias", "textureSampleGrad"]

/-- All other functions that every program can call. -/
def otherFunctions : List String := [
  "all", "any", "isNan", "isInf", "min", "max", "clamp", "atan2", "modf", "frexp", "ldexp",
  "pow", "dot", "cross", "distance", "length", "faceForward", "reflect", "refract", "fma", "mix",
  "step", "smoothstep", "transpose", "determinant", "extractBits", "insertBits", "outerProduct",
  "inverse", "pack4x8snorm", "pack4x8unorm", "pack2x16snorm", "pack2x16unorm", "pack2x16float",
  "unpack4x8snorm", "unpack4x8unorm", "unpack2x16snorm", "unpack2x16unorm", "unpack2x16float",
  "select", "arrayLength", "atomicLoad", "atomicStore", "atomicAdd", "atomicSub", "atomicAnd",
  "atomicOr", "atomicXor", "atomicMin", "atomicMax", "atomicExchange",
  "atomicCompareExchangeWeak", "storageBarrier", "workgroupBarrier", "workgroupUniformLoad",
  "textureStore", "textureSampleCompare", "textureSampleCompareLevel", "textureGather",
  "textureGatherCompare", "textureLoad", "textureDimensions", "textureNumLayers",
  "textureNumLevels", "textureNumSamples"]

/-- Functions that every program can call. -/
def builtinFunctions : List String := mappedFunctions ++ samplingFunctions ++ otherFunctions

/-- Values that stages exchange with the pipeline. -/
def builtinValues : List String := [
  "position", "vertex_index", "instance_index", "front_facing", "frag_depth", "sample_index",
  "sample_mask", "primitive_index", "view_index", "global_invocation_id",
  "local_invocation_id", "local_invocation_index", "workgroup_id", "workgroup_size",
  "num_workgroups"]

end PassChain.Wgsl
