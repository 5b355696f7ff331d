import TypedMarkup.Vocabulary.Element

namespace TypedMarkup

def animationKeys : List String :=
  ["onbegin", "onend", "onrepeat"]

def stylingKeys : List String :=
  ["Styling", "class", "style"]

def conditionalKeys : List String :=
  ["Conditional_Processing", "requiredExtensions", "systemLanguage"]

def timingKeys : List String :=
  ["begin", "dur", "end", "min", "max", "restart", "repeatCount", "repeatDur"]

def strokeKeys : List String :=
  ["stroke-dasharray", "stroke-dashoffset", "stroke-linecap", "stroke-linejoin",
   "stroke-miterlimit", "stroke-opacity", "stroke-width"]

def presentationKeys : List String :=
  ["Presentation", "clip-path", "clip-rule", "color", "color-interpolation", "color-rendering",
   "cursor", "display", "fill", "fill-opacity", "fill-rule", "filter", "mask", "opacity",
   "pointer-events", "shape-rendering", "stroke"] ++ strokeKeys ++
  ["transform", "vector-effect", "visibility"]

def svgDefinitions : List Definition :=
  [.entry .container "SVGvkern"
     "Deprecated: This feature is no longer recommended. Though some browsers might still support it, it may have already been removed from the relevant web standards, may be in the process of being dropped, or may only be kept for compatibility purposes. Avoid using it, and update existing code if possible; see the compatibility table at the bottom of this page to guide your decision. Be aware that this feature may cease to work at any time.\nThe <vkern> SVG element allows to fine-tweak the vertical distance between two glyphs in top-to-bottom fonts. This process is known as kerning."
     .none .none,
   .entry .container "SVGclipPath"
     "The <clipPath> SVG element defines a clipping path, to be used by the clip-path property.\nA clipping path restricts the region to which paint can be applied. Conceptually, parts of the drawing that lie outside of the region bounded by the clipping path are not drawn."
     (.found .svg (["clip-path", "clipPathUnits", "Core", "id"] ++ stylingKeys ++
      conditionalKeys ++ ["Presentation", "clip-rule", "color", "display", "fill",
      "fill-opacity", "fill-rule", "filter", "mask", "opacity", "shape-rendering", "stroke"] ++
      strokeKeys ++ ["transform", "vector-effect", "visibility"]))
     .none,
   .entry .container "SVGdesc"
     "The <desc> element provides an accessible, long-text description of any SVG container element or graphics element.\nText in a <desc> element is not rendered as part of the graphic. If the element can be described by visible text, it is possible to reference that text with the aria-describedby attribute. If aria-describedby is used, it will take precedence over <desc>.\nThe hidden text of a <desc> element can also be concatenated with the visible text of other elements using multiple IDs in an aria-describedby value. In that case, the <desc> element must provide an ID for reference."
     (.found .svg (["Core", "id"] ++ stylingKeys))
     (.baseline .svgDocumentElement (.baseline .svgGlobal .none)),
   .entry .container "SVGline"
     "The <line> element is an SVG basic shape used to create a line connecting two points."
     (.found .svg (["x1", "x2", "y1", "y2", "pathLength", "Core", "id", "tabindex"] ++
      stylingKeys ++ conditionalKeys ++ presentationKeys))
     (.baseline .svgGraphical (.baseline .svgGlobal .none)),
   .entry .container "SVGrect"
     "The <rect> element is a basic SVG shape that draws rectangles, defined by their position, width, and height. The rectangles may have their corners rounded."
     (.found .svg (["x", "y", "width", "height", "rx", "ry", "pathLength", "Core", "id",
      "tabindex"] ++ stylingKeys ++ conditionalKeys ++ presentationKeys))
     (.baseline .svgGraphical (.baseline .svgGlobal .none)),
   .entry .container "SVGellipse"
     "The <ellipse> element is an SVG basic shape, used to create ellipses based on a center coordinate, and both their x and y radius.\n\nNote: Ellipses are unable to specify the exact orientation of the ellipse (if, for example, you wanted to draw an ellipse tilted at a 45 degree angle), but it can be rotated by using the transform attribute.\n"
     (.found .svg (["transform", "cx", "cy", "rx", "ry", "pathLength", "Core", "id",
      "tabindex"] ++ stylingKeys ++ conditionalKeys ++ ["Presentation", "clip-path",
      "clip-rule", "color", "color-interpolation", "color-rendering", "cursor", "display",
      "fill", "fill-opacity", "fill-rule", "filter", "mask", "opacity", "pointer-events",
      "shape-rendering", "stroke"] ++ strokeKeys ++ ["vector-effect", "visibility"]))
     (.baseline .svgGraphical (.baseline .svgGlobal .none)),
   .entry .container "SVGfeSpecularLighting"
     "The <feSpecularLighting> SVG filter primitive lights a source graphic using the alpha channel as a bump map. The resulting image is an RGBA image based on the light color. The lighting calculation follows the standard specular component of the Phong lighting model. The resulting image depends on the light color, light position and surface geometry of the input bump map. The result of the lighting calculation is added. The filter primitive assumes that the viewer is at infinity in the z direction.\nThis filter primitive produces an image which contains the specular reflection part of the lighting calculation. Such a map is intended to be combined with a texture using the add term of the arithmetic <feComposite> method. Multiple light sources can be simulated by adding several of these light maps before applying it to the texture image."
     (.found .svg ["class", "style", "in", "surfaceScale", "specularConstant",
      "specularExponent", "kernelUnitLength"])
     .none,
   .entry .container "SVGfeSpotLight"
     "\nThe <feSpotLight> SVG filter primitive defines a light source that can be used to create a spotlight effect.\nIt is used within a lighting filter primitive: <feDiffuseLighting> or <feSpecularLighting>.\n"
     (.found .svg ["x", "y", "z", "pointsAtX", "pointsAtY", "pointsAtZ", "specularExponent",
      "limitingConeAngle"])
     .none,
   .entry .container "Svg"
     "The svg element is a container that defines a new coordinate system and viewport. It is used as the outermost element of SVG documents, but it can also be used to embed an SVG fragment inside an SVG or HTML document.\n\nNote: The xmlns attribute is only required on the outermost svg element of SVG documents. It is unnecessary for inner svg elements or inside HTML documents.\n"
     (.found .svg (["viewBox", "baseProfile", "contentScriptType", "contentStyleType",
      "height", "preserveAspectRatio", "version", "width", "x", "y", "Core", "id", "tabindex"] ++
      stylingKeys ++ conditionalKeys ++ presentationKeys))
     (.baseline .svgDocumentElement (.baseline .svgDocument (.baseline .svgGraphical (.baseline .svgGlobal .none)))),
   .entry .container "SVGfeTurbulence"
     "The <feTurbulence> SVG filter primitive creates an image using the Perlin turbulence function. It allows the synthesis of artificial textures like clouds or marble. The resulting image will fill the entire filter primitive subregion."
     (.found .svg ["class", "style", "baseFrequency", "numOctaves", "seed", "stitchTiles",
      "type"])
     .none,
   .entry .container "SVGaltGlyphDef"
     "Deprecated: This feature is no longer recommended. Though some browsers might still support it, it may have already been removed from the relevant web standards, may be in the process of being dropped, or may only be kept for compatibility purposes. Avoid using it, and update existing code if possible; see the compatibility table at the bottom of this page to guide your decision. Be aware that this feature may cease to work at any time.\nThe <altGlyphDef> SVG element defines a substitution representation for glyphs."
     .none .none,
   .entry .container "SVGdefs"
     "The <defs> element is used to store graphical objects that will be used at a later time. Objects created inside a <defs> element are not rendered directly. To display them you have to reference them (with a <use> element for example).\nGraphical objects can be referenced from anywhere, however, defining these objects inside of a <defs> element promotes understandability of the SVG content and is beneficial to the overall accessibility of the document."
     (.found .svg (["Core", "id", "lang"] ++ stylingKeys ++ presentationKeys))
     (.baseline .svgGraphical (.baseline .svgDocumentElement (.baseline .svgGlobal .none))),
   .entry .container "SVGfeMerge"
     "The <feMerge> SVG element allows filter effects to be applied concurrently instead of sequentially. This is achieved by other filters storing their output via the result attribute and then accessing it in a <feMergeNode> child."
     (.found .svg ["result", "class", "style"]) .none,
   .entry .container "SVGfeMorphology"
     "The <feMorphology> SVG filter primitive is used to erode or dilate the input image. Its usefulness lies especially in fattening or thinning effects."
     (.found .svg ["class", "style", "in", "operator", "radius"]) .none,
   .entry .container "SVGmetadata"
     "The <metadata> SVG element adds metadata to SVG content. Metadata is structured information about data. The contents of <metadata> should be elements from other XML namespaces such as RDF, FOAF, etc."
     .none .none,
   .entry .container "SVGpath"
     "The <path> SVG element is the generic element to define a shape. All the basic shapes can be created with a path element."
     (.found .svg (["d", "pathLength", "Core", "id", "tabindex"] ++ stylingKeys ++
      conditionalKeys ++ presentationKeys))
     (.baseline .svgGraphical (.baseline .svgGlobal .none)),
   .entry .container "SVGpolygon"
     "The <polygon> element defines a closed shape consisting of a set of connected straight line segments. The last point is connected to the first point.\nFor open shapes, see the <polyline> element."
     (.found .svg (["points", "pathLength", "Core", "id", "tabindex"] ++ stylingKeys ++
      conditionalKeys ++ presentationKeys))
     (.baseline .svgGraphical (.baseline .svgGlobal .none)),
   .entry .container "SVGtspan"
     "The SVG <tspan> element defines a subtext within a <text> element or another <tspan> element. It allows for adjustment of the style and/or position of that subtext as needed."
     (.found .svg (["x", "y", "dx", "dy", "rotate", "lengthAdjust", "textLength", "Core", "id",
      "tabindex"] ++ stylingKeys ++ conditionalKeys ++ ["Presentation", "clip-path",
      "clip-rule", "color", "color-interpolation", "color-rendering", "cursor", "display",
      "dominant-baseline", "fill", "fill-opacity", "fill-rule", "filter", "mask", "opacity",
      "pointer-events", "shape-rendering", "stroke"] ++ strokeKeys ++ ["text-anchor",
      "vector-effect", "visibility"]))
     (.baseline .svgGraphical (.baseline .svgGlobal .none)),
   .entry .container "SVGanimate"
     "The SVG <animate> element provides a way to animate an attribute of an element over time."
     (.found .svg (timingKeys ++ ["fill", "calcMode", "values", "keyTimes", "keySplines",
      "From", "To", "by", "attributeName", "additive", "accumulate", "Core", "id"] ++
      stylingKeys))
     (.baseline .svgDocumentElement (.baseline .svgGlobal (.animated (.found .svg
      animationKeys)))),
   .entry .container "SVGaltGlyphItem"
     "Deprecated: This feature is no longer recommended. Though some browsers might still support it, it may have already been removed from the relevant web standards, may be in the process of being dropped, or may only be kept for compatibility purposes. Avoid using it, and update existing code if possible; see the compatibility table at the bottom of this page to guide your decision. Be aware that this feature may cease to work at any time.\nThe <altGlyphItem> element provides a set of candidates for glyph substitution by the <altGlyph> element."
     .none (.found .svg animationKeys),
   .entry .container "SVGg"
     "The <g> SVG element is a container used to group other SVG elements.\nTransformations applied to the <g> element are performed on its child elements, and its attributes are inherited by its children. It can also group multiple elements to be referenced later with the <use> element."
     (.found .svg (["Core", "id", "tabindex"] ++ stylingKeys ++ conditionalKeys ++
      presentationKeys))
     (.baseline .svgGraphical (.baseline .svgGlobal (.found .svg animationKeys))),
   .entry .container "SVGglyphRef"
     "Deprecated: This feature is no longer recommended. Though some browsers might still support it, it may have already been removed from the relevant web standards, may be in the process of being dropped, or may only be kept for compatibility purposes. Avoid using it, and update existing code if possible; see the compatibility table at the bottom of this page to guide your decision. Be aware that this feature may cease to work at any time.\nThe glyphRef element provides a single possible glyph to the referencing <altGlyph> substitution."
     .none (.found .svg animationKeys),
   .entry .container "SVGmarker"
     "The <marker> element defines the graphic that is to be used for drawing arrowheads or polymarkers on a given <path>, <line>, <polyline> or <polygon> element.\nMarkers are attached to shapes using the marker-start, marker-mid, and marker-end properties."
     (.found .svg (["marker-start", "marker-mid", "marker-end", "markerHeight", "markerUnits",
      "markerWidth", "orient", "preserveAspectRatio", "refX", "refY", "viewBox", "Core", "id",
      "tabindex"] ++ stylingKeys ++ conditionalKeys ++ presentationKeys))
     (.found .svg animationKeys),
   .entry .container "SVGaltGlyph"
     "Deprecated: This feature is no longer recommended. Though some browsers might still support it, it may have already been removed from the relevant web standards, may be in the process of being dropped, or may only be kept for compatibility purposes. Avoid using it, and update existing code if possible; see the compatibility table at the bottom of this page to guide your decision. Be aware that this feature may cease to work at any time.\nThe <altGlyph> SVG element allows sophisticated selection of the glyphs used to render its child character data."
     .none (.found .svg animationKeys),
   .entry .container "SVGfeMergeNode"
     "The feMergeNode takes the result of another filter to be processed by its parent <feMerge>."
     (.found .svg ["Core", "in"]) (.found .svg animationKeys),
   .entry .container "SVGfePointLight"
     "The <fePointLight> filter primitive defines a light source which allows to create a point light effect. It that can be used within a lighting filter primitive: <feDiffuseLighting> or <feSpecularLighting>."
     (.found .svg ["x", "y", "z"]) (.found .svg animationKeys),
   .entry .container "SVGtitle"
     "The <title> element provides an accessible, short-text description of any SVG container element or graphics element.\nText in a <title> element is not rendered as part of the graphic, but browsers usually display it as a tooltip. If an element can be described by visible text, it is recommended to reference that text with an aria-labelledby attribute rather than using the <title> element.\n\nNote: For backward compatibility with SVG 1.1, <title> elements should be the first child element of their parent.\n"
     (.found .svg (["Core", "id"] ++ stylingKeys))
     (.baseline .svgDocumentElement (.baseline .svgGlobal (.found .svg animationKeys))),
   .entry .container "SVGuse"
     "The <use> element takes nodes from within the SVG document, and duplicates them somewhere else."
     (.found .svg (["x", "y", "width", "height", "href", "viewBox", "Core", "id", "tabindex"] ++
      stylingKeys ++ conditionalKeys ++ presentationKeys))
     (.baseline .svgGraphical (.baseline .svgGlobal (.found .svg animationKeys))),
   .entry .container "SVGmpath"
     "The <mpath> sub-element for the <animateMotion> element provides the ability to reference an external <path> element as the definition of a motion path."
     .none (.found .svg animationKeys),
   .entry .container "SVGset"
     "The SVG <set> element provides a simple means of just setting the value of an attribute for a specified duration.\nIt supports all attribute types, including those that cannot reasonably be interpolated, such as string and boolean values. For attributes that can be reasonably be interpolated, the <animate> is usually preferred.\n\nNote: The <set> element is non-additive. The additive and accumulate attributes are not allowed, and will be ignored if specified.\n"
     (.found .svg (["additive", "accumulate", "To"] ++ timingKeys ++ ["fill", "attributeName",
      "Core", "id"] ++ stylingKeys))
     (.baseline .svgDocumentElement (.baseline .svgGlobal (.animated (.found .svg
      animationKeys)))),
   .entry .container "SVGa"
     "The <a> SVG element creates a hyperlink to other web pages, files, locations in the same page, email addresses, or any other URL. It is very similar to HTML's <a> element.\nSVG's <a> element is a container, which means you can create a link around text (like in HTML) but also around any shape."
     (.found .svg (["href", "target", "Core", "id", "lang", "tabindex"] ++ stylingKeys ++
      conditionalKeys ++ presentationKeys))
     (.baseline .svgGraphical (.baseline .svgDocumentElement (.baseline .svgGlobal (.found .svg
      animationKeys)))),
   .entry .container "SVGglyph"
     "Deprecated: This feature is no longer recommended. Though some browsers might still support it, it may have already been removed from the relevant web standards, may be in the process of being dropped, or may only be kept for compatibility purposes. Avoid using it, and update existing code if possible; see the compatibility table at the bottom of this page to guide your decision. Be aware that this feature may cease to work at any time.\nA <glyph> defines a single glyph in an SVG font."
     .none (.found .svg animationKeys),
   .entry .container "SVGfeDistantLight"
     "The <feDistantLight> filter primitive defines a distant light source that can be used within a lighting filter primitive: <feDiffuseLighting> or <feSpecularLighting>."
     (.found .svg ["azimuth", "elevation"]) (.found .svg animationKeys),
   .entry .container "SVGfeFuncA"
     "The <feFuncA> SVG filter primitive defines the transfer function for the alpha component of the input graphic of its parent <feComponentTransfer> element."
     .none (.found .svg animationKeys),
   .entry .container "SVGpattern"
     "The <pattern> element defines a graphics object which can be redrawn at repeated x- and y-coordinate intervals (\"tiled\") to cover an area.\nThe <pattern> is referenced by the fill and/or stroke attributes on other graphics elements to fill or stroke those elements with the referenced pattern."
     (.found .svg (["fill", "stroke", "height", "href", "patternContentUnits",
      "patternTransform", "patternUnits", "preserveAspectRatio", "viewBox", "width", "x", "y",
      "Core", "id", "tabindex"] ++ stylingKeys ++ conditionalKeys ++ ["Presentation",
      "clip-path", "clip-rule", "color", "color-interpolation", "color-rendering", "cursor",
      "display", "fill-opacity", "fill-rule", "filter", "mask", "opacity", "pointer-events",
      "shape-rendering"] ++ strokeKeys ++ ["transform", "vector-effect", "visibility"]))
     (.found .svg animationKeys),
   .entry .container "SVGfeFuncB"
     "The <feFuncB> SVG filter primitive defines the transfer function for the blue component of the input graphic of its parent <feComponentTransfer> element."
     .none (.found .svg animationKeys),
   .entry .container "SVGfeTile"
     "The <feTile> SVG filter primitive allows to fill a target rectangle with a repeated, tiled pattern of an input image. The effect is similar to the one of a <pattern>."
     (.found .svg ["class", "style", "in"]) (.found .svg animationKeys),
   .entry .container "SVGforeignObject"
     "The <foreignObject> SVG element includes elements from a different XML namespace. In the context of a browser, it is most likely (X)HTML."
     (.found .svg (["height", "width", "x", "y", "Core", "id", "tabindex"] ++ stylingKeys ++
      conditionalKeys ++ presentationKeys))
     (.baseline .svgDocumentElement (.baseline .svgDocument (.baseline .svgGraphical (.baseline .svgGlobal (.found .svg
      animationKeys))))),
   .entry .container "SVGanimateTransform"
     "The animateTransform element animates a transformation attribute on its target element, thereby allowing animations to control translation, scaling, rotation, and/or skewing."
     (.found .svg ["by", "From", "To", "type"]) (.found .svg animationKeys),
   .entry .container "SVGfeBlend"
     "The <feBlend> SVG filter primitive composes two objects together ruled by a certain blending mode. This is similar to what is known from image editing software when blending two layers. The mode is defined by the mode attribute."
     (.found .svg ["mode", "class", "style", "in", "in2"]) (.found .svg animationKeys),
   .entry .container "SVGfeComposite"
     "The <feComposite> SVG filter primitive performs the combination of two input images pixel-wise in image space using one of the Porter-Duff compositing operations: over, in, atop, out, xor, lighter, or arithmetic.\nThe table below shows each of these operations using an image of the MDN logo composited with a red circle:\n\n\n\n  Operation\n  Description\n\n\n  \n\tover \n\t  \n\t\n  \n  \n\tThe source graphic defined by the in attribute\n\t(the MDN logo) is placed over the destination graphic defined by the\n\tin2 attribute (the circle).\n\t\n\t  This is the default operation, which will be used if no\n\t  operation or an unsupported operation is specified.\n\t\n  \n\n\n  \n\tin \n\t  \n\t\n  \n  \n\tThe parts of the source graphic defined by the in attribute\n\tthat overlap the destination graphic defined in the\n\tin2 attribute, replace the destination graphic.\n  \n\n\n  \n\tout \n\t  \n\t\n  \n  \n\tThe parts of the source graphic defined by the in attribute\n\tthat fall outside the destination graphic defined in the\n\tin2 attribute, are displayed.\n  \n\n\n  \n\tatop \n\t  \n\t\n  \n  \n\tThe parts of the source graphic defined in the\n\tin attribute, which overlap the destination graphic defined\n\tin the in2 attribute, replace the destination graphic. The\n\tparts of the destination graphic that do not overlap with the source\n\tgraphic stay untouched.\n  \n\n\n  \n\txor \n\t  \n\t\n  \n  \n\tThe non-overlapping regions of the source graphic defined in the\n\tin attribute and the destination graphic defined in the\n\tin2 attribute are combined.\n  \n\n\n  \n\tlighter \n\t  \n\t\n  \n  \n\tThe sum of the source graphic defined in the in attribute\n\tand the destination graphic defined in the in2 attribute is\n\tdisplayed.\n  \n\n\n  \n\t\n\t  arithmetic\n\t  \n\t  \n\t\n  \n  \n\t\n\t  The arithmetic operation is useful for combining the\n\t  output from the <feDiffuseLighting> and\n\t  <feSpecularLighting> filters with texture\n\t  data. If the arithmetic operation is chosen, each result\n\t  pixel is computed using the following formula:\n\t\n\tresult = k1*i1*i2 + k2*i1 + k3*i2 + k4\n\twhere:\n\t\n\t  \n\t\ti1 and i2 indicate the corresponding pixel\n\t\tchannel values of the input image, which map to\n\t\tin and in2 respectively\n\t  \n\t  \n\t\tk1, k2,\n\t\tk3, and k4 indicate the\n\t\tvalues of the attributes with the same name.\n\t  \n\t\n  \n\n\n"
     (.found .svg ["in", "in2", "k1", "k2", "k3", "k4", "class", "style", "operator"])
     (.found .svg animationKeys),
   .entry .container "SVGfeFlood"
     "The <feFlood> SVG filter primitive fills the filter subregion with the color and opacity defined by flood-color and flood-opacity."
     (.found .svg ["flood-color", "flood-opacity", "class", "style"])
     (.found .svg animationKeys),
   .entry .container "SVGmask"
     "The <mask> element defines an alpha mask for compositing the current object into the background. A mask is used/referenced using the mask property."
     (.found .svg (["mask", "height", "maskContentUnits", "maskUnits", "x", "y", "width",
      "Core", "id"] ++ stylingKeys ++ conditionalKeys ++ ["Presentation", "clip-path",
      "clip-rule", "color", "display", "fill", "fill-opacity", "fill-rule", "filter",
      "opacity", "shape-rendering", "stroke"] ++ strokeKeys ++ ["transform", "vector-effect",
      "visibility"]))
     (.found .svg animationKeys),
   .entry .container "SVGradialGradient"
     "The <radialGradient> element lets authors define radial gradients that can be applied to fill or stroke of graphical elements.\n\nNote: Don't be confused with CSS radial-gradient() as CSS gradients can only apply to HTML elements where SVG gradient can only apply to SVG elements.\n"
     .none (.found .svg animationKeys),
   .entry .container "SVGtextPath"
     "To render text along the shape of a <path>, enclose the text in a <textPath> element that has an href attribute with a reference to the <path> element."
     (.found .svg (["href", "lengthAdjust", "method", "path", "side", "spacing", "startOffset",
      "textLength", "Core", "id", "tabindex"] ++ stylingKeys ++ conditionalKeys ++
      presentationKeys))
     (.baseline .svgGraphical (.baseline .svgGlobal (.found .svg animationKeys))),
   .entry .container "SVGdiscard"
     "The <discard> SVG element allows authors to specify the time at which particular elements are to be discarded, thereby reducing the resources required by an SVG user agent. This is particularly useful to help SVG viewers conserve memory while displaying long-running documents.\nThe <discard> element may occur wherever the <animate> element may."
     (.found .svg ["begin", "href"]) (.found .svg animationKeys),
   .entry .container "SVGhkern"
     "Deprecated: This feature is no longer recommended. Though some browsers might still support it, it may have already been removed from the relevant web standards, may be in the process of being dropped, or may only be kept for compatibility purposes. Avoid using it, and update existing code if possible; see the compatibility table at the bottom of this page to guide your decision. Be aware that this feature may cease to work at any time.\nThe <hkern> SVG element allows to fine-tweak the horizontal distance between two glyphs. This process is known as kerning."
     .none (.found .svg animationKeys),
   .entry .container "SVGsymbol"
     "The <symbol> element is used to define graphical template objects which can be instantiated by a <use> element.\nThe use of <symbol> elements for graphics that are used multiple times in the same document adds structure and semantics. Documents that are rich in structure may be rendered graphically, as speech, or as Braille, and thus promote accessibility."
     (.found .svg (["height", "preserveAspectRatio", "refX", "refY", "viewBox", "width", "x",
      "y", "Core", "id"] ++ stylingKeys ++ presentationKeys))
     (.baseline .svgGraphical (.baseline .svgDocumentElement (.baseline .svgGlobal (.found .svg
      animationKeys)))),
   .entry .container "SVGtref"
     "Deprecated: This feature is no longer recommended. Though some browsers might still support it, it may have already been removed from the relevant web standards, may be in the process of being dropped, or may only be kept for compatibility purposes. Avoid using it, and update existing code if possible; see the compatibility table at the bottom of this page to guide your decision. Be aware that this feature may cease to work at any time.\nThe textual content for a <text> SVG element can be either character data directly embedded within the <text> element or the character data content of a referenced element, where the referencing is specified with a <tref> element."
     .none (.found .svg animationKeys),
   .entry .container "SVGfeDisplacementMap"
     "The <feDisplacementMap> SVG filter primitive uses the pixel values from the image from in2 to spatially displace the image from in.\nThe formula for the transformation looks like this:\nP'(x,y) ← P(x + scale * (XC(x,y) - 0.5), y + scale * (YC(x,y) - 0.5))\nwhere P(x,y) is the input image, in, and P'(x,y) is the destination. XC(x,y) and YC(x,y) are the component values of the channel designated by xChannelSelector and yChannelSelector."
     (.found .svg ["in2", "in", "xChannelSelector", "yChannelSelector", "class", "style",
      "scale"])
     (.found .svg animationKeys),
   .entry .container "SVGfilter"
     "The <filter> SVG element defines a custom filter effect by grouping atomic filter primitives. It is never rendered itself, but must be used by the filter attribute on SVG elements, or the filter CSS property for SVG/HTML elements."
     (.found .svg ["filter", "class", "style", "x", "y", "width", "height", "filterRes",
      "filterUnits", "primitiveUnits"])
     (.found .svg animationKeys),
   .entry .container "SVGpolyline"
     "The <polyline> SVG element is an SVG basic shape that creates straight lines connecting several points. Typically a polyline is used to create open shapes as the last point doesn't have to be connected to the first point. For closed shapes see the <polygon> element."
     (.found .svg (["points", "pathLength", "Core", "id", "tabindex"] ++ stylingKeys ++
      conditionalKeys ++ presentationKeys))
     (.baseline .svgGraphical (.baseline .svgGlobal (.found .svg animationKeys))),
   .entry .container "SVGfeGaussianBlur"
     "The <feGaussianBlur> SVG filter primitive blurs the input image by the amount specified in stdDeviation, which defines the bell-curve."
     (.found .svg ["stdDeviation", "class", "style", "in", "edgeMode"])
     (.found .svg animationKeys),
   .entry .container "SVGfont"
     "Deprecated: This feature is no longer recommended. Though some browsers might still support it, it may have already been removed from the relevant web standards, may be in the process of being dropped, or may only be kept for compatibility purposes. Avoid using it, and update existing code if possible; see the compatibility table at the bottom of this page to guide your decision. Be aware that this feature may cease to work at any time.\nThe <font> SVG element defines a font to be used for text layout."
     .none (.found .svg animationKeys),
   .entry .container "SVGstyle"
     "The SVG <style> element allows style sheets to be embedded directly within SVG content.\n\nNote: SVG's style element has the same attributes as the corresponding element in HTML (see HTML's <style> element).\n"
     (.found .svg (["type", "media", "title", "Core", "id"] ++ stylingKeys))
     (.baseline .svgDocumentElement (.baseline .svgGlobal (.found .svg animationKeys))),
   .entry .container "SVGanimateMotion"
     "The SVG <animateMotion> element provides a way to define how an element moves along a motion path.\n\nNote: To reuse an existing path, it will be necessary to use an <mpath> element inside the <animateMotion> element instead of the path attribute.\n"
     (.found .svg (["path", "keyPoints", "keyTimes", "d", "rotate", "calcMode"] ++ timingKeys ++
      ["fill", "values", "keySplines", "From", "To", "by", "attributeName", "additive",
      "accumulate", "Core", "id"] ++ stylingKeys))
     (.baseline .svgDocumentElement (.baseline .svgGlobal (.animated (.found .svg
      animationKeys)))),
   .entry .container "SVGfeColorMatrix"
     "The <feColorMatrix> SVG filter element changes colors based on a transformation matrix. Every pixel's color value [R,G,B,A] is matrix multiplied by a 5 by 5 color matrix to create new color [R',G',B',A'].\n\nNote: The prime symbol ' is used in mathematics indicate the result of a transformation.\n\n| R' |     | r1 r2 r3 r4 r5 |   | R |\n| G' |     | g1 g2 g3 g4 g5 |   | G |\n| B' |  =  | b1 b2 b3 b4 b5 | * | B |\n| A' |     | a1 a2 a3 a4 a5 |   | A |\n| 1  |     | 0  0  0  0  1  |   | 1 |\n\nIn simplified terms, below is how each color channel in the new pixel is calculated. The last row is ignored because its values are constant.\nR' = r1*R + r2*G + r3*B + r4*A + r5\nG' = g1*R + g2*G + g3*B + g4*A + g5\nB' = b1*R + b2*G + b3*B + b4*A + b5\nA' = a1*R + a2*G + a3*B + a4*A + a5\n\nTake the amount of red in the new pixel, or R':\nIt is the sum of:\n\nr1 times the old pixel's red R,\nr2 times the old pixel's green G,\nr3 times of the old pixel's blue B,\nr4 times the old pixel's alpha A,\nplus a shift r5.\n\nThese specified amounts can be any real number, though the final R' will be clamped between 0 and 1. The same goes for G', B', and A'.\nR'      =      r1 * R      +        r2 * G      +       r3 * B      +       r4 * A       +       r5\nNew red = [ r1 * old red ] + [ r2 * old green ] + [ r3 * old Blue ] + [ r4 * old Alpha ] + [ shift of r5 ]\n\nIf, say, we want to make a completely black image redder, we can make the r5 a positive real number x, boosting the redness on every pixel of the new image by x.\nAn identity matrix looks like this:\n R G B A W\nR' | 1 0 0 0 0 |\nG' | 0 1 0 0 0 |\nB' | 0 0 1 0 0 |\nA' | 0 0 0 1 0 |\n\nIn it, every new value is exactly 1 times its old value, with nothing else added. It is recommended to start manipulating the matrix from here."
     (.found .svg ["class", "style", "in", "type", "values"]) (.found .svg animationKeys),
   .entry .container "SVGlinearGradient"
     "The <linearGradient> element lets authors define linear gradients to apply to other SVG elements."
     .none (.found .svg animationKeys),
   .entry .container "SVGscript"
     "The SVG script element allows to add scripts to an SVG document.\n\nNote: While SVG's script element is equivalent to the HTML <script> element, it has some discrepancies, like it uses the href attribute instead of src and it doesn't support ECMAScript modules so far (See browser compatibility below for details)\n"
     (.found .svg (["href", "type", "Core", "id"] ++ stylingKeys))
     (.baseline .svgDocumentElement (.baseline .svgGlobal (.found .svg animationKeys))),
   .entry .container "SVGfeFuncR"
     "The <feFuncR> SVG filter primitive defines the transfer function for the red component of the input graphic of its parent <feComponentTransfer> element."
     .none (.found .svg animationKeys),
   .entry .container "SVGfeImage"
     "The <feImage> SVG filter primitive fetches image data from an external source and provides the pixel data as output (meaning if the external source is an SVG image, it is rasterized.)"
     (.found .svg ["class", "style", "preserveAspectRatio"]) (.found .svg animationKeys),
   .entry .container "SVGfeOffset"
     "The <feOffset> SVG filter primitive allows to offset the input image. The input image as a whole is offset by the values specified in the dx and dy attributes."
     (.found .svg ["dx", "dy", "class", "style", "in"]) (.found .svg animationKeys),
   .entry .container "SVGfeDiffuseLighting"
     "The <feDiffuseLighting> SVG filter primitive lights an image using the alpha channel as a bump map. The resulting image, which is an RGBA opaque image, depends on the light color, light position and surface geometry of the input bump map.\nThe light map produced by this filter primitive can be combined with a texture image using the multiply term of the arithmetic operator of the <feComposite> filter primitive. Multiple light sources can be simulated by adding several of these light maps together before applying it to the texture image."
     (.found .svg ["class", "style", "in", "surfaceScale", "diffuseConstant",
      "kernelUnitLength"])
     (.found .svg animationKeys),
   .entry .container "SVGview"
     "A view is a defined way to view the image, like a zoom level or a detail view."
     (.found .svg ["viewBox", "preserveAspectRatio", "zoomAndPan", "viewTarget"])
     (.found .svg animationKeys),
   .entry .container "SVGcircle"
     "The <circle> SVG element is an SVG basic shape, used to draw circles based on a center point and a radius."
     (.found .svg (["cx", "cy", "r", "pathLength", "Core", "id", "tabindex"] ++ stylingKeys ++
      conditionalKeys ++ presentationKeys))
     (.baseline .svgGraphical (.baseline .svgGlobal (.found .svg animationKeys))),
   .entry .container "SVGcursor"
     "Deprecated: This feature is no longer recommended. Though some browsers might still support it, it may have already been removed from the relevant web standards, may be in the process of being dropped, or may only be kept for compatibility purposes. Avoid using it, and update existing code if possible; see the compatibility table at the bottom of this page to guide your decision. Be aware that this feature may cease to work at any time.\n\nNote: The CSS cursor property should be used instead of this element.\n\nThe <cursor> SVG element can be used to define a platform-independent custom cursor. A recommended approach for defining a platform-independent custom cursor is to create a PNG image and define a cursor element that references the PNG image and identifies the exact position within the image which is the pointer position (i.e., the hot spot).\nThe PNG format is recommended because it supports the ability to define a transparency mask via an alpha channel. If a different image format is used, this format should support the definition of a transparency mask (two options: provide an explicit alpha channel or use a particular pixel color to indicate transparency). If the transparency mask can be determined, the mask defines the shape of the cursor; otherwise, the cursor is an opaque rectangle. Typically, the other pixel information (e.g., the R, G and B channels) defines the colors for those parts of the cursor which are not masked out. Note that cursors usually contain at least two colors so that the cursor can be visible over most backgrounds."
     .none (.found .svg animationKeys),
   .entry .container "SVGfeComponentTransfer"
     "The <feComponentTransfer> SVG filter primitive performs color-component-wise remapping of data for each pixel. It allows operations like brightness adjustment, contrast adjustment, color balance or thresholding.\nThe calculations are performed on non-premultiplied color values. The colors are modified by changing each channel (R, G, B, and A) to the result of what the children <feFuncR>, <feFuncB>, <feFuncG>, and <feFuncA> return. If more than one of the same element is provided, the last one specified is used, and if no element is supplied to modify one of the channels, the effect is the same is if an identity transformation had been given for that channel."
     (.found .svg ["class", "style", "in"]) (.found .svg animationKeys),
   .entry .container "SVGfeConvolveMatrix"
     "The <feConvolveMatrix> SVG filter primitive applies a matrix convolution filter effect. A convolution combines pixels in the input image with neighboring pixels to produce a resulting image. A wide variety of imaging operations can be achieved through convolutions, including blurring, edge detection, sharpening, embossing and beveling.\nA matrix convolution is based on an n-by-m matrix (the convolution kernel) which describes how a given pixel value in the input image is combined with its neighboring pixel values to produce a resulting pixel value. Each result pixel is determined by applying the kernel matrix to the corresponding source pixel and its neighboring pixels. The basic convolution formula which is applied to each color value for a given pixel is:\n\nCOLORX,Y = (\nSUM I=0 to [orderY-1] \x7b\nSUM J=0 to [orderX-1] \x7b\nSOURCE X-targetX+J, Y-targetY+I * kernelMatrixorderX-J-1, orderY-I-1\n\x7d\n\x7d\n) / divisor + bias * ALPHAX,Y\n\nwhere \"orderX\" and \"orderY\" represent the X and Y values for the 'order' attribute, \"targetX\" represents the value of the 'targetX' attribute, \"targetY\" represents the value of the 'targetY' attribute, \"kernelMatrix\" represents the value of the 'kernelMatrix' attribute, \"divisor\" represents the value of the 'divisor' attribute, and \"bias\" represents the value of the 'bias' attribute.\nNote in the above formulas that the values in the kernel matrix are applied such that the kernel matrix is rotated 180 degrees relative to the source and destination images in order to match convolution theory as described in many computer graphics textbooks.\nTo illustrate, suppose you have an input image which is 5 pixels by 5 pixels, whose color values for one of the color channels are as follows:\n0    20  40 235 235\n100 120 140 235 235\n200 220 240 235 235\n225 225 255 255 255\n225 225 255 255 255\n\nand you define a 3-by-3 convolution kernel as follows:\n1 2 3\n4 5 6\n7 8 9\n\nLet's focus on the color value at the second row and second column of the image (source pixel value is 120). Assuming the simplest case (where the input image's pixel grid aligns perfectly with the kernel's pixel grid) and assuming default values for attributes 'divisor', 'targetX' and 'targetY', then resulting color value will be:\n(9*0   + 8*20  + 7*40 +\n6*100 + 5*120 + 4*140 +\n3*200 + 2*220 + 1*240) / (9+8+7+6+5+4+3+2+1)\n"
     (.found .svg ["class", "style", "in", "order", "kernelMatrix", "divisor", "bias",
      "targetX", "targetY", "edgeMode", "kernelUnitLength", "preserveAlpha"])
     (.found .svg animationKeys),
   .entry .container "SVGimage"
     "The <image> SVG element includes images inside SVG documents. It can display raster image files or other SVG files.\nThe only image formats SVG software must support are JPEG, PNG, and other SVG files. Animated GIF behavior is undefined.\nSVG files displayed with <image> are treated as an image: external resources aren't loaded, :visited styles aren't applied, and they cannot be interactive. To include dynamic SVG elements, try <use> with an external URL. To include SVG files and run scripts inside them, try <object> inside of <foreignObject>.\n\nNote: The HTML spec defines <image> as a synonym for <img> while parsing HTML. This specific element and its behavior only apply inside SVG documents or inline SVGs.\n"
     (.found .svg ["class", "style", "transform", "x", "y", "width", "height", "href",
      "preserveAspectRatio", "crossorigin"])
     (.found .svg animationKeys),
   .entry .container "SVGstop"
     "The SVG <stop> element defines a color and its position to use on a gradient. This element is always a child of a <linearGradient> or <radialGradient> element."
     (.found .svg (["offset", "stop-color", "stop-opacity", "Core", "id"] ++ stylingKeys ++
      ["Presentation", "color", "display", "visibility"]))
     (.baseline .svgDocumentElement (.baseline .svgGlobal (.found .svg animationKeys))),
   .entry .container "SVGfeFuncG"
     "The <feFuncG> SVG filter primitive defines the transfer function for the green component of the input graphic of its parent <feComponentTransfer> element."
     .none (.found .svg animationKeys)]

end TypedMarkup
