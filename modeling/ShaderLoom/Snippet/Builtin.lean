/-!
# Built-in snippets

The texts of the snippets that every library starts with.  They are templates: the parameters in
double braces are filled in, and lines that start with two dollar signs choose and repeat parts.
-/

namespace ShaderLoom
namespace Snippet

/-- A text of several lines, each with its newline. -/
def lines (texts : List String) : String :=
  String.join (texts.map fun text => text ++ "\n")

/-- The frame around the declarations, helpers and statements of a stage. -/
def program : String := lines [
    "$$ if header",
    "\x7b\x7b header \x7d\x7d",
    "$$ endif",
    "#define SHADER_NAME \x7b\x7b name \x7d\x7d",
    "$$ if precision",
    "precision \x7b\x7b precision \x7d\x7d float;",
    "$$ endif",
    "",
    "$$ for decl in globals",
    "\x7b\x7b decl \x7d\x7d",
    "$$ endfor",
    "",
    "$$ for helper in helpers",
    "\x7b\x7b helper \x7d\x7d",
    "",
    "$$ endfor",
    "void main() \x7b",
    "$$ for decl in locals",
    "    \x7b\x7b decl \x7d\x7d",
    "$$ endfor",
    "$$ for line in body",
    "    \x7b\x7b line \x7d\x7d",
    "$$ endfor",
    "\x7d"]

/-- The position of a billboard: its center in view space, moved in the plane of the screen. -/
def billboard : String := lines [
    "vec4 billboard(const in vec3 vertex, const in mat4 modelViewMatrix, const in mat4 " ++
      "projectionMatrix) \x7b",
    "    vec4 center = modelViewMatrix * vec4(0.0, 0.0, 0.0, 1.0);",
    "    float scale = length(modelViewMatrix[0].xyz);",
    "    return projectionMatrix * (center + vec4(vertex.xy * scale, 0.0, 0.0));",
    "\x7d"]

/-- The diffuse contribution of a light of the given `kind`. -/
def lighting : String := lines [
    "// light: \x7b\x7b kind \x7d\x7d",
    "$$ if kind == \"directional\"",
    "vec3 computeDirectionalLight(const in vec3 normal, const in vec4 viewVertex, const in " ++
      "vec3 lightDirection, const in vec3 lightColor) \x7b",
    "    float lambert = max(dot(normal, -normalize(lightDirection)), 0.0);",
    "    return lightColor * lambert;",
    "\x7d",
    "$$ elif kind == \"point\"",
    "vec3 computePointLight(const in vec3 normal, const in vec4 viewVertex, const in vec3 " ++
      "lightPosition, const in vec3 lightColor) \x7b",
    "    vec3 toLight = lightPosition - viewVertex.xyz;",
    "    float dist = length(toLight);",
    "    float lambert = max(dot(normal, toLight / max(dist, 0.0001)), 0.0);",
    "    return lightColor * lambert / (1.0 + dist * dist);",
    "\x7d",
    "$$ elif kind == \"spot\"",
    "vec3 computeSpotLight(const in vec3 normal, const in vec4 viewVertex, const in vec3 " ++
      "lightPosition, const in vec3 lightDirection, const in vec3 lightColor, " ++
      "const in float cosCutoff) \x7b",
    "    vec3 toLight = normalize(lightPosition - viewVertex.xyz);",
    "    float spot = step(cosCutoff, dot(-toLight, normalize(lightDirection)));",
    "    return spot * lightColor * max(dot(normal, toLight), 0.0);",
    "\x7d",
    "$$ elif kind == \"hemi\"",
    "vec3 computeHemiLight(const in vec3 normal, const in vec4 viewVertex, const in vec3 " ++
      "lightDirection, const in vec3 skyColor, const in vec3 groundColor) \x7b",
    "    float blend = 0.5 * dot(normal, -normalize(lightDirection)) + 0.5;",
    "    return mix(groundColor, skyColor, blend);",
    "\x7d",
    "$$ endif"]

/-- A vertex value blended toward its morph targets. -/
def morphing : String := lines [
    "// targets hold absolute positions, weights blend toward them",
    "vec3 morphTransform\x7b\x7b target_count \x7d\x7d(const in vec3 base, const in vec4 " ++
      "weights\x7b$ for i in range(target_count|int) $\x7d, const in vec3 target\x7b\x7b i " ++
      "\x7d\x7d\x7b$ endfor $\x7d) \x7b",
    "    vec3 result = base;",
    "$$ for i in range(target_count|int)",
    "    result += weights[\x7b\x7b i \x7d\x7d] * (target\x7b\x7b i \x7d\x7d - base);",
    "$$ endfor",
    "    return result;",
    "\x7d"]

/-- The visibility of a light through its depth map, by the given `technique`. -/
def shadow : String := lines [
    "// shadow technique: \x7b\x7b technique \x7d\x7d",
    "float computeShadow(const in sampler2D depthMap, const in vec4 shadowVertex, const in " ++
      "vec2 texelSize, const in float bias) \x7b",
    "    vec3 coord = (shadowVertex.xyz / shadowVertex.w) * 0.5 + 0.5;",
    "    if (coord.x < 0.0 || coord.x > 1.0 || coord.y < 0.0 || coord.y > 1.0) return 1.0;",
    "    float depth = coord.z - bias;",
    "$$ if technique == \"pcf\"",
    "    float sum = 0.0;",
    "    for (int x = -1; x <= 1; x++) \x7b",
    "        for (int y = -1; y <= 1; y++) \x7b",
    "            vec2 offset = vec2(float(x), float(y)) * texelSize;",
    "            sum += step(depth, texture2D(depthMap, coord.xy + offset).r);",
    "        \x7d",
    "    \x7d",
    "    return sum / 9.0;",
    "$$ elif technique == \"esm\"",
    "    float occluder = texture2D(depthMap, coord.xy).r;",
    "    return clamp(exp(-80.0 * (depth - occluder)), 0.0, 1.0);",
    "$$ elif technique == \"vsm\"",
    "    vec2 moments = texture2D(depthMap, coord.xy).rg;",
    "    if (depth <= moments.x) return 1.0;",
    "    float variance = max(moments.y - moments.x * moments.x, 0.00002);",
    "    float delta = depth - moments.x;",
    "    return variance / (variance + delta * delta);",
    "$$ else",
    "    return step(depth, texture2D(depthMap, coord.xy).r);",
    "$$ endif",
    "\x7d"]

/-- The weighted matrix of a vertex, from the rows of the bone palette. -/
def skinning : String := lines [
    "// skinning palette: \x7b\x7b palette \x7d\x7d (\x7b\x7b bone_count \x7d\x7d bones, 3 " ++
      "rows each)",
    "mat4 getBoneMat4(const in int index) \x7b",
    "    vec4 row0 = \x7b\x7b palette \x7d\x7d[index];",
    "    vec4 row1 = \x7b\x7b palette \x7d\x7d[index + 1];",
    "    vec4 row2 = \x7b\x7b palette \x7d\x7d[index + 2];",
    "    return mat4(row0, row1, row2, vec4(0.0, 0.0, 0.0, 1.0));",
    "\x7d",
    "",
    "// rows are stored transposed: multiply as `v * m`",
    "mat4 skeletalTransform(const in vec4 weights, const in vec4 bones) \x7b",
    "    mat4 result = getBoneMat4(int(bones.x) * 3) * weights.x;",
    "    result += getBoneMat4(int(bones.y) * 3) * weights.y;",
    "    result += getBoneMat4(int(bones.z) * 3) * weights.z;",
    "    result += getBoneMat4(int(bones.w) * 3) * weights.w;",
    "    return result;",
    "\x7d"]

/-- The built-in snippets by name. -/
def builtin : List (String × String) :=
  [("program", program), ("billboard", billboard), ("lighting", lighting),
    ("morphing", morphing), ("shadow", shadow), ("skinning", skinning)]

/-- The built-in snippet with a given name.  A snippet also goes by the name of its file. -/
def builtin? (name : String) : Option String :=
  (builtin.find? fun entry => name == entry.1 || name == entry.1 ++ ".glsl").map Prod.snd

end Snippet
end ShaderLoom
