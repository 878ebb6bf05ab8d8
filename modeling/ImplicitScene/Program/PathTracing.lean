import ImplicitScene.Program.Basic
import ImplicitScene.Program.Template

/-!
# The main function of a program

The main function follows light backwards from the eye.  For every sample it
draws a ray through the lens, marches along it to the next surface or to the
place where the medium scatters it, and goes on from there.  What the surfaces
emit is added up, and the fourth component counts the events.

The text has one slot for every field of the camera.
-/

namespace ImplicitScene.PathTracing

/-- The lines of the main function, with slots for the camera. -/
def lines : List String :=
  ["vec3 eye = $\x7beye\x7d;",
    "vec3 target = $\x7btarget\x7d;",
    "vec3 up = $\x7bup\x7d;",
    "float fieldOfView = $\x7bfield_of_view\x7d;",
    "float aperture = $\x7baperture\x7d;",
    "",
    "vec3 look = normalize(target - eye);",
    "up = normalize(up - dot(look, up) * look);",
    "vec3 right = cross(look, up);",
    "",
    "vec4 result = vec4(0.0);",
    "",
    "for (int iteration = 0; iteration <= iterations; iteration++) \x7b",
    "    vec2 jitter = random(float(iteration));",
    "",
    "    vec2 lens = jitter.x * aperture * vec2(cos(jitter.y * 2.0 * PI), sin(jitter.y * 2.0 * PI));",
    "    vec3 from = eye + lens.x * right + lens.y * up;",
    "",
    "    vec2 angle = (uv * 0.5 + (jitter - 0.5) / resolution) * fieldOfView;",
    "    vec3 screen = vec3(cos(angle.y) * sin(angle.x), sin(angle.y), cos(angle.y) * cos(angle.x));",
    "    vec3 to = eye + length(target - eye) * (right * screen.x + up * screen.y + look * screen.z);",
    "",
    "    vec3 direction = normalize(to - from);",
    "",
    "    vec3 luminance = vec3(1.0);",
    "    Material air = materialAir(from, vec3(0.0), direction);",
    "    Material current = air;",
    "",
    "    for (int bounce = 1; bounce <= bounces; bounce++) \x7b",
    "        Closest closest = Closest(0, MAX_VALUE);",
    "        vec3 position = from;",
    "        float travelled = 0.0;",
    "",
    "        vec2 noise = random(float(iteration * bounces + bounce));",
    "",
    "        float limit = -log(noise.y) * current.scatter;",
    "",
    "        for (int marched = 1; marched <= steps; marched++) \x7b",
    "            closest = calculateClosest(position);",
    "",
    "            if (closest.distance < epsilon) \x7b",
    "                travelled += closest.distance;",
    "                position = from + direction * travelled;",
    "                break;",
    "            \x7d",
    "",
    "            if (travelled > limit) \x7b",
    "                travelled = limit;",
    "                position = from + direction * travelled;",
    "                break;",
    "            \x7d",
    "",
    "            travelled += closest.distance * 0.5;",
    "            position = from + direction * travelled;",
    "            travelled -= epsilon;",
    "        \x7d",
    "",
    "        if (closest.object == 0)",
    "            break;",
    "",
    "        if (travelled == limit) \x7b",
    "            from = position;",
    "            direction = sampleSphere(noise);",
    "            result += vec4(luminance * current.emissivity, 1.0);",
    "            luminance *= current.color;",
    "            continue;",
    "        \x7d",
    "",
    "        vec3 normal = calculateNormal(closest.object, position);",
    "        Material material = calculateMaterial(closest.object, position, normal, direction);",
    "",
    "        result += vec4(luminance * material.emissivity, 1.0);",
    "",
    "        bool backface = dot(normal, direction) > 0.0;",
    "        if (backface)",
    "            normal = -normal;",
    "",
    "        normal = calculateSample(normal, material.smoothness, noise);",
    "",
    "        if (material.color == vec3(0.0))",
    "            break;",
    "",
    "        luminance *= material.color;",
    "",
    "        if (noise.y < material.transmittance) \x7b",
    "            float eta = current.refraction / material.refraction;",
    "            if (backface)",
    "                eta = 1.0 / eta;",
    "",
    "            vec3 refracted = refract(direction, normal, eta);",
    "            if (refracted != vec3(0.0)) \x7b",
    "                from = position - 6.0 * epsilon * direction / dot(direction, normal);",
    "                direction = refracted;",
    "                current = material;",
    "                if (backface)",
    "                    current = air;",
    "                continue;",
    "            \x7d",
    "        \x7d",
    "",
    "        from = position + 2.0 * epsilon * normal;",
    "        direction = reflect(direction, normal);",
    "    \x7d",
    "\x7d",
    "",
    "vec4 original = texture2D(texture, uv * 0.5 + 0.5);",
    "",
    "if (clicked)",
    "    original *= 0.5;",
    "",
    "gl_FragColor = original + result;"]

/-- The text of the main function, with slots for the camera. -/
def template : String := "\n".intercalate lines

/-- The main function for a camera, given the values of the slots. -/
def function (camera : List (String × String)) : FunctionDef :=
  ⟨⟨"void", "main", []⟩, Statement.lines (Template.fill template camera)⟩

end ImplicitScene.PathTracing
