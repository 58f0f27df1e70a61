/-!
The programs that come with the library. Presets refer to them by name.
-/

namespace PassChain.Wgsl.Bundled

/-- Passes its source through. It rests on the device between frames and is the only pass of the
chain that needs no preset. -/
def stock : String := "
struct VsIn \x7b
    @location(0) position: vec2<f32>,
    @location(1) tex_coord: vec2<f32>,
    @location(2) lut_tex_coord: vec2<f32>,
\x7d;

struct VsOut \x7b
    @builtin(position) pos: vec4<f32>,
    @location(0) uv: vec2<f32>,
\x7d;

struct StockParams \x7b
    mvp: mat4x4<f32>,
\x7d;

@group(0) @binding(0) var<uniform> params: StockParams;
@group(0) @binding(1) var source: texture_2d<f32>;
@group(0) @binding(2) var source_sampler: sampler;

@vertex
fn vs_main(vin: VsIn) -> VsOut \x7b
    var out: VsOut;
    out.pos = params.mvp * vec4<f32>(vin.position, 0.0, 1.0);
    out.uv = vin.tex_coord;
    return out;
\x7d

@fragment
fn fs_main(inp: VsOut) -> @location(0) vec4<f32> \x7b
    return textureSample(source, source_sampler, inp.uv);
\x7d
"

/-- Darkens every second line of the output; the frame counter moves the lines, so that counting
modulo two makes them flicker. -/
def scanlines : String := "
struct VsIn \x7b
    @location(0) position: vec2<f32>,
    @location(1) tex_coord: vec2<f32>,
    @location(2) lut_tex_coord: vec2<f32>,
\x7d;

struct VsOut \x7b
    @builtin(position) pos: vec4<f32>,
    @location(0) uv: vec2<f32>,
\x7d;

struct PassParams \x7b
    mvp: mat4x4<f32>,
    video_size: vec2<f32>,
    texture_size: vec2<f32>,
    output_size: vec2<f32>,
    frame_count: f32,
    frame_direction: f32,
\x7d;

@group(0) @binding(0) var<uniform> params: PassParams;
@group(0) @binding(1) var source: texture_2d<f32>;
@group(0) @binding(2) var source_sampler: sampler;

@vertex
fn vs_main(vin: VsIn) -> VsOut \x7b
    var out: VsOut;
    out.pos = params.mvp * vec4<f32>(vin.position, 0.0, 1.0);
    out.uv = vin.tex_coord;
    return out;
\x7d

@fragment
fn fs_main(inp: VsOut) -> @location(0) vec4<f32> \x7b
    let c = textureSample(source, source_sampler, inp.uv);
    // One source line covers output_size.y / video_size.y output lines.
    let line = floor(inp.uv.y * params.texture_size.y * params.output_size.y / max(params.video_size.y, 1.0));
    let phase = (line + params.frame_count) % 2.0;
    let weight = select(1.0, 0.6, phase >= 1.0);
    return vec4<f32>(c.rgb * weight, c.a);
\x7d
"

/-- Blends the frame with the two before it, as a slow display does. -/
def ghosting : String := "
struct VsIn \x7b
    @location(0) position: vec2<f32>,
    @location(1) tex_coord: vec2<f32>,
    @location(2) lut_tex_coord: vec2<f32>,
\x7d;

struct VsOut \x7b
    @builtin(position) pos: vec4<f32>,
    @location(0) uv: vec2<f32>,
\x7d;

struct GhostParams \x7b
    mvp: mat4x4<f32>,
    video_size: vec2<f32>,
    texture_size: vec2<f32>,
    prev_texture_size: vec2<f32>,
    prev1_texture_size: vec2<f32>,
\x7d;

@group(0) @binding(0) var<uniform> params: GhostParams;
@group(0) @binding(1) var source: texture_2d<f32>;
@group(0) @binding(2) var source_sampler: sampler;
@group(0) @binding(3) var prev: texture_2d<f32>;
@group(0) @binding(4) var prev_sampler: sampler;
@group(0) @binding(5) var prev1: texture_2d<f32>;
@group(0) @binding(6) var prev1_sampler: sampler;

@vertex
fn vs_main(vin: VsIn) -> VsOut \x7b
    var out: VsOut;
    out.pos = params.mvp * vec4<f32>(vin.position, 0.0, 1.0);
    out.uv = vin.tex_coord;
    return out;
\x7d

@fragment
fn fs_main(inp: VsOut) -> @location(0) vec4<f32> \x7b
    // History slots share the input's texel size, so the same UV addresses them.
    let cur = textureSample(source, source_sampler, inp.uv);
    let p0 = textureSample(prev, prev_sampler, inp.uv);
    let p1 = textureSample(prev1, prev1_sampler, inp.uv);
    return cur * 0.6 + p0 * 0.25 + p1 * 0.15;
\x7d
"

/-- Replaces colors by those of a lookup texture, red across and green down. -/
def lutGrade : String := "
struct VsIn \x7b
    @location(0) position: vec2<f32>,
    @location(1) tex_coord: vec2<f32>,
    @location(2) lut_tex_coord: vec2<f32>,
\x7d;

struct VsOut \x7b
    @builtin(position) pos: vec4<f32>,
    @location(0) uv: vec2<f32>,
    @location(1) lut_uv: vec2<f32>,
\x7d;

struct GradeParams \x7b
    mvp: mat4x4<f32>,
\x7d;

@group(0) @binding(0) var<uniform> params: GradeParams;
@group(0) @binding(1) var source: texture_2d<f32>;
@group(0) @binding(2) var source_sampler: sampler;
@group(0) @binding(3) var color_lut: texture_2d<f32>;
@group(0) @binding(4) var color_lut_sampler: sampler;

@vertex
fn vs_main(vin: VsIn) -> VsOut \x7b
    var out: VsOut;
    out.pos = params.mvp * vec4<f32>(vin.position, 0.0, 1.0);
    out.uv = vin.tex_coord;
    out.lut_uv = vin.lut_tex_coord;
    return out;
\x7d

@fragment
fn fs_main(inp: VsOut) -> @location(0) vec4<f32> \x7b
    let c = textureSample(source, source_sampler, inp.uv);
    let graded = textureSample(color_lut, color_lut_sampler, c.rg);
    return vec4<f32>(graded.rgb, c.a);
\x7d
"

/-- The program of this name. -/
def text? : String → Option String
  | "stock" => some stock
  | "scanlines" => some scanlines
  | "ghosting" => some ghosting
  | "lut_grade" => some lutGrade
  | _ => none

end PassChain.Wgsl.Bundled
