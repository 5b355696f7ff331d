import TypedMarkup.Vocabulary.Attribute

namespace TypedMarkup

def svgAttributeEntries : List Attribute :=
  [⟨"filterRes", "Filterres", none, .attrValue,
    "Deprecated: This feature is no longer recommended. Though some browsers might still support it, it may have already been removed from the relevant web standards, may be in the process of being dropped, or may only be kept for compatibility purposes. Avoid using it, and update existing code if possible; see the compatibility table at the bottom of this page to guide your decision. Be aware that this feature may cease to work at any time."⟩,
   ⟨"pointsAtY", "Pointsaty", none, .string,
    "The pointsAtY attribute represents the y location in the coordinate system established by attribute primitiveUnits on the <filter> element of the point at which the light source is pointing."⟩,
   ⟨"dy", "Dy", none, .string,
    "The dy attribute indicates a shift along the y-axis on the position of an element or its content."⟩,
   ⟨"marker-start", "MarkerStart", some "marker-start", .string,
    "The marker-start attribute defines the arrowhead or polymarker that will be drawn at the first vertex of the given shape."⟩,
   ⟨"font-stretch", "FontStretch", some "font-stretch", .attrValue,
    "The font-stretch attribute indicates the desired amount of condensing or expansion in the glyphs used to render the text."⟩,
   ⟨"contentScriptType", "Contentscripttype", none, .attrValue,
    "Deprecated: This feature is no longer recommended. Though some browsers might still support it, it may have already been removed from the relevant web standards, may be in the process of being dropped, or may only be kept for compatibility purposes. Avoid using it, and update existing code if possible; see the compatibility table at the bottom of this page to guide your decision. Be aware that this feature may cease to work at any time."⟩,
   ⟨"d", "D", none, .string, "The d attribute defines a path to be drawn."⟩,
   ⟨"k1", "K1", none, .string,
    "The k1 attribute defines one of the values to be used within the arithmetic operation of the <feComposite> filter primitive."⟩,
   ⟨"Styling", "Styling", none, .attrValue,
    "The SVG styling attributes are all the attributes that can be specified on any SVG element to apply CSS styling effects."⟩,
   ⟨"x", "X", none, .string,
    "The x attribute defines an x-axis coordinate in the user coordinate system."⟩,
   ⟨"cx", "Cx", none, .string, "The cx attribute define the x-axis coordinate of a center point."⟩,
   ⟨"surfaceScale", "Surfacescale", none, .string,
    "The surfaceScale attribute represents the height of the surface for a light filter primitive."⟩,
   ⟨"side", "Side", none, .string,
    "Experimental: This is an experimental technologyCheck the Browser compatibility table carefully before using this in production."⟩,
   ⟨"values", "Values", none, .attrValue,
    "The values attribute has different meanings, depending upon the context where it's used, either it defines a sequence of values used over the course of an animation, or it's a list of numbers for a color matrix, which is interpreted differently depending on the type of color change to be performed."⟩,
   ⟨"target", "Target", none, .string,
    "The target attribute should be used when there are multiple possible targets for the ending resource, such as when the parent document is embedded within an HTML or XHTML document, or is viewed with a tabbed browser. This attribute specifies the name of the browsing context (e.g., a browser tab or an (X)HTML iframe or object element) into which a document is to be opened when the link is activated:"⟩,
   ⟨"clipPathUnits", "Clippathunits", none, .string,
    "The clipPathUnits attribute indicates which coordinate system to use for the contents of the <clipPath> element."⟩,
   ⟨"id", "Id", none, .string, "The id attribute assigns a unique name to an element."⟩,
   ⟨"x2", "X2", none, .string,
    "The x2 attribute is used to specify the second x-coordinate for drawing an SVG element that requires more than one coordinate. Elements that only need one coordinate use the x attribute instead."⟩,
   ⟨"specularConstant", "Specularconstant", none, .string,
    "The specularConstant attribute controls the ratio of reflection of the specular lighting. It represents the ks value in the Phong lighting model. The bigger the value the stronger the reflection."⟩,
   ⟨"accumulate", "Accumulate", none, .attrValue,
    "The accumulate attribute controls whether or not an animation is cumulative."⟩,
   ⟨"edgeMode", "Edgemode", none, .attrValue,
    "The edgeMode attribute determines how to extend the input image as necessary with color values so that the matrix operations can be applied when the kernel is positioned at or near the edge of the input image."⟩,
   ⟨"pointer-events", "PointerEvents", some "pointer-events", .string,
    "The pointer-events attribute is a presentation attribute that allows defining whether or when an element may be the target of a mouse event."⟩,
   ⟨"rx", "Rx", none, .string, "The rx attribute defines a radius on the x-axis."⟩,
   ⟨"pointsAtX", "Pointsatx", none, .string,
    "The pointsAtX attribute represents the x location in the coordinate system established by attribute primitiveUnits on the <filter> element of the point at which the light source is pointing."⟩,
   ⟨"lengthAdjust", "Lengthadjust", none, .string,
    "The lengthAdjust attribute controls how the text is stretched into the length defined by the textLength attribute."⟩,
   ⟨"kernelMatrix", "Kernelmatrix", none, .string,
    "The kernelMatrix attribute defines the list of numbers that make up the kernel matrix for the <feConvolveMatrix> element."⟩,
   ⟨"opacity", "Opacity", none, .string,
    "The opacity attribute specifies the transparency of an object or of a group of objects, that is, the degree to which the background behind the element is overlaid."⟩,
   ⟨"calcMode", "Calcmode", none, .attrValue,
    "The calcMode attribute specifies the interpolation mode for the animation."⟩,
   ⟨"marker-mid", "MarkerMid", some "marker-mid", .string,
    "The marker-mid attribute defines the arrowhead or polymarker that will be drawn at all interior vertices of the given shape."⟩,
   ⟨"k2", "K2", none, .string,
    "The k2 attribute defines one of the values to be used within the arithmetic operation of the <feComposite> filter primitive."⟩,
   ⟨"pointsAtZ", "Pointsatz", none, .string,
    "The pointsAtZ attribute represents the y location in the coordinate system established by attribute primitiveUnits on the <filter> element of the point at which the light source is pointing, assuming that, in the initial local coordinate system, the positive z-axis comes out towards the person viewing the content and assuming that one unit along the z-axis equals one unit in x and y."⟩,
   ⟨"result", "Result", none, .string,
    "The result attribute defines the assigned name for this filter primitive. If supplied, then graphics that result from processing this filter primitive can be referenced by an in attribute on a subsequent filter primitive within the same <filter> element. If no value is provided, the output will only be available for re-use as the implicit input into the next filter primitive if that filter primitive provides no value for its in attribute."⟩,
   ⟨"text-anchor", "TextAnchor", some "text-anchor", .string,
    "The text-anchor attribute is used to align (start-, middle- or end-alignment) a string of pre-formatted text or auto-wrapped text where the wrapping area is determined from the inline-size property relative to a given point."⟩,
   ⟨"maskUnits", "Maskunits", none, .string,
    "The maskUnits attribute indicates which coordinate system to use for the geometry properties of the <mask> element."⟩,
   ⟨"path", "Path", none, .string,
    "The path attribute has two different meanings, either it defines a text path along which the characters of a text are rendered, or a motion path along which a referenced element is animated."⟩,
   ⟨"stroke-width", "StrokeWidth", some "stroke-width", .string,
    "The stroke-width attribute is a presentation attribute defining the width of the stroke to be applied to the shape."⟩,
   ⟨"seed", "Seed", none, .string,
    "The seed attribute represents the starting number for the pseudo random number generator of the <feTurbulence> filter primitive."⟩,
   ⟨"operator", "Operator", none, .string,
    "The operator attribute has two meanings based on the context it's used in. Either it defines the compositing or morphing operation to be performed."⟩,
   ⟨"dominant-baseline", "DominantBaseline", some "dominant-baseline", .string,
    "The dominant-baseline attribute specifies the dominant baseline, which is the baseline used to align the box's text and inline-level contents. It also indicates the default alignment baseline of any boxes participating in baseline alignment in the box's alignment context."⟩,
   ⟨"crossorigin", "Crossorigin", none, .string,
    "The crossorigin attribute, valid on the <image> element, provides support for CORS, defining how the element handles crossorigin requests, thereby enabling the configuration of the CORS requests for the element's fetched data. It is a CORS settings attribute."⟩,
   ⟨"cy", "Cy", none, .string, "The cy attribute define the y-axis coordinate of a center point."⟩,
   ⟨"viewBox", "Viewbox", none, .string,
    "The viewBox attribute defines the position and dimension, in user space, of an SVG viewport."⟩,
   ⟨"radius", "Radius", none, .attrValue,
    "The radius attribute represents the radius (or radii) for the operation on a given <feMorphology> filter primitive."⟩,
   ⟨"repeatCount", "Repeatcount", none, .string,
    "The repeatCount attribute indicates the number of times an animation will take place."⟩,
   ⟨"order", "Order", none, .string,
    "The order attribute indicates the size of the matrix to be used by a <feConvolveMatrix> element."⟩,
   ⟨"repeatDur", "Repeatdur", none, .string,
    "The repeatDur attribute specifies the total duration for repeating an animation."⟩,
   ⟨"elevation", "Elevation", none, .string,
    "The elevation attribute specifies the direction angle for the light source from the XY plane towards the Z-axis, in degrees. Note that the positive Z-axis points towards the viewer of the content."⟩,
   ⟨"flood-color", "FloodColor", some "flood-color", .string,
    "The flood-color attribute indicates what color to use to flood the current filter primitive subregion."⟩,
   ⟨"xChannelSelector", "Xchannelselector", none, .string,
    "The xChannelSelector attribute indicates which color channel from in2 to use to displace the pixels in in along the x-axis."⟩,
   ⟨"transform", "Transform", none, .string,
    "The transform attribute defines a list of transform definitions that are applied to an element and the element's children."⟩,
   ⟨"keyTimes", "Keytimes", none, .string,
    "The keyTimes attribute represents a list of time values used to control the pacing of the animation."⟩,
   ⟨"href", "Href", none, .string,
    "The href attribute defines a link to a resource as a reference URL. The exact meaning of that link depends on the context of each element using it."⟩,
   ⟨"patternTransform", "Patterntransform", none, .string,
    "The patternTransform attribute defines a list of transform definitions that are applied to a pattern tile."⟩,
   ⟨"scale", "Scale", none, .string,
    "The scale attribute defines the displacement scale factor to be used on a <feDisplacementMap> filter primitive. The amount is expressed in the coordinate system established by the primitiveUnits attribute on the <filter> element."⟩,
   ⟨"keyPoints", "Keypoints", none, .string,
    "The keyPoints attribute indicates the simple duration of an animation."⟩,
   ⟨"kernelUnitLength", "Kernelunitlength", none, .attrValue,
    "Deprecated: This feature is no longer recommended. Though some browsers might still support it, it may have already been removed from the relevant web standards, may be in the process of being dropped, or may only be kept for compatibility purposes. Avoid using it, and update existing code if possible; see the compatibility table at the bottom of this page to guide your decision. Be aware that this feature may cease to work at any time."⟩,
   ⟨"baseFrequency", "Basefrequency", none, .string,
    "The baseFrequency attribute represents the base frequency parameter for the noise function of the <feTurbulence> filter primitive."⟩,
   ⟨"in#workaround_for_backgroundimage", "In#Workaround_for_backgroundimage", none, .attrValue,
    "The in attribute identifies input for the given filter primitive."⟩,
   ⟨"style", "Style", none, .string,
    "The style attribute allows to style an element using CSS declarations. It functions identically to the style attribute in HTML."⟩,
   ⟨"color", "Color", none, .string,
    "The color attribute is used to provide a potential indirect value, currentcolor, for the fill, stroke, stop-color, flood-color, and lighting-color attributes."⟩,
   ⟨"in", "In", none, .string, "The in attribute identifies input for the given filter primitive."⟩,
   ⟨"preserveAspectRatio", "Preserveaspectratio", none, .string,
    "The preserveAspectRatio attribute indicates how an element with a viewBox providing a given aspect ratio must fit into a viewport with a different aspect ratio."⟩,
   ⟨"Core", "Core", none, .attrValue,
    "The SVG core attributes are all the common attributes that can be specified on any SVG element."⟩,
   ⟨"maskContentUnits", "Maskcontentunits", none, .string,
    "The maskContentUnits attribute indicates which coordinate system to use for the contents of the <mask> element."⟩,
   ⟨"width", "Width", none, .string,
    "The width attribute defines the horizontal length of an element in the user coordinate system."⟩,
   ⟨"patternContentUnits", "Patterncontentunits", none, .string,
    "The patternContentUnits attribute indicates which coordinate system to use for the contents of the <pattern> element."⟩,
   ⟨"method", "Method", none, .attrValue,
    "Experimental: This is an experimental technologyCheck the Browser compatibility table carefully before using this in production."⟩,
   ⟨"spacing", "Spacing", none, .attrValue,
    "The spacing attribute indicates how the user agent should determine the spacing between typographic characters that are to be rendered along a path."⟩,
   ⟨"primitiveUnits", "Primitiveunits", none, .attrValue,
    "The primitiveUnits attribute specifies the coordinate system for the various length values within the filter primitives and for the attributes that define the filter primitive subregion."⟩,
   ⟨"fill-rule", "FillRule", some "fill-rule", .string,
    "The fill-rule attribute is a presentation attribute defining the algorithm to use to determine the inside part of a shape."⟩,
   ⟨"specularExponent", "Specularexponent", none, .string,
    "The specularExponent attribute controls the focus for the light source. The bigger the value the brighter the light."⟩,
   ⟨"markerUnits", "Markerunits", none, .attrValue,
    "The markerUnits attribute defines the coordinate system for the markerWidth and markerHeight attributes and the contents of the <marker>."⟩,
   ⟨"refY", "Refy", none, .attrValue,
    "The refY attribute defines the y coordinate of an element's reference point."⟩,
   ⟨"version", "Version", none, .string,
    "Deprecated: This feature is no longer recommended. Though some browsers might still support it, it may have already been removed from the relevant web standards, may be in the process of being dropped, or may only be kept for compatibility purposes. Avoid using it, and update existing code if possible; see the compatibility table at the bottom of this page to guide your decision. Be aware that this feature may cease to work at any time."⟩,
   ⟨"font-size-adjust", "FontSizeAdjust", some "font-size-adjust", .string,
    "The font-size-adjust attribute allows authors to specify an aspect value for an element that will preserve the x-height of the first choice font in a substitute font."⟩,
   ⟨"systemLanguage", "Systemlanguage", none, .string,
    "The systemLanguage attribute represents a list of supported language tags. This list is matched against the language defined in the user preferences."⟩,
   ⟨"stroke-linejoin", "StrokeLinejoin", some "stroke-linejoin", .string,
    "The stroke-linejoin attribute is a presentation attribute defining the shape to be used at the corners of paths when they are stroked."⟩,
   ⟨"cursor", "Cursor", none, .attrValue, "SVG Attribute reference home"⟩,
   ⟨"viewTarget", "Viewtarget", none, .attrValue,
    "Deprecated: This feature is no longer recommended. Though some browsers might still support it, it may have already been removed from the relevant web standards, may be in the process of being dropped, or may only be kept for compatibility purposes. Avoid using it, and update existing code if possible; see the compatibility table at the bottom of this page to guide your decision. Be aware that this feature may cease to work at any time."⟩,
   ⟨"r", "R", none, .string, "The r attribute defines the radius of a circle."⟩,
   ⟨"stroke-dasharray", "StrokeDasharray", some "stroke-dasharray", .string,
    "The stroke-dasharray attribute is a presentation attribute defining the pattern of dashes and gaps used to paint the outline of the shape;"⟩,
   ⟨"Events#global_event_attributes", "Events#Global_event_attributes", none, .attrValue,
    "Event attributes always have their name starting with \"on\" followed by the name of the event for which they are intended. They specifies some script to run when the event of the given type is dispatched to the element on which the attributes are specified."⟩,
   ⟨"To", "To", none, .attrValue,
    "The to attribute indicates the final value of the attribute that will be modified during the animation."⟩,
   ⟨"markerHeight", "Markerheight", none, .attrValue,
    "The markerHeight attribute represents the height of the viewport into which the <marker> is to be fitted when it is rendered according to the viewBox and preserveAspectRatio attributes."⟩,
   ⟨"stdDeviation", "Stddeviation", none, .string,
    "The stdDeviation attribute defines the standard deviation for the blur operation."⟩,
   ⟨"rotate", "Rotate", none, .string,
    "The rotate attribute specifies how the animated element rotates as it travels along a path specified in an <animateMotion> element."⟩,
   ⟨"Events#animation_event_attributes", "Events#Animation_event_attributes", none, .attrValue,
    "Event attributes always have their name starting with \"on\" followed by the name of the event for which they are intended. They specifies some script to run when the event of the given type is dispatched to the element on which the attributes are specified."⟩,
   ⟨"font-variant", "FontVariant", some "font-variant", .string,
    "The font-variant attribute indicates whether the text is to be rendered using variations of the font's glyphs."⟩,
   ⟨"zoomAndPan", "Zoomandpan", none, .string,
    "Deprecated: This feature is no longer recommended. Though some browsers might still support it, it may have already been removed from the relevant web standards, may be in the process of being dropped, or may only be kept for compatibility purposes. Avoid using it, and update existing code if possible; see the compatibility table at the bottom of this page to guide your decision. Be aware that this feature may cease to work at any time."⟩,
   ⟨"bias", "Bias", none, .attrValue,
    "The bias attribute shifts the range of the filter. After applying the kernelMatrix of the <feConvolveMatrix> element to the input image to yield a number and applied the divisor attribute, the bias attribute is added to each component. This allows representation of values that would otherwise be clamped to 0 or 1."⟩,
   ⟨"contentStyleType", "Contentstyletype", none, .attrValue,
    "Deprecated: This feature is no longer recommended. Though some browsers might still support it, it may have already been removed from the relevant web standards, may be in the process of being dropped, or may only be kept for compatibility purposes. Avoid using it, and update existing code if possible; see the compatibility table at the bottom of this page to guide your decision. Be aware that this feature may cease to work at any time."⟩,
   ⟨"dx", "Dx", none, .string,
    "The dx attribute indicates a shift along the x-axis on the position of an element or its content."⟩,
   ⟨"min", "Min", none, .string,
    "The min attribute specifies the minimum value of the active animation duration."⟩,
   ⟨"orient", "Orient", none, .string,
    "The orient attribute indicates how a marker is rotated when it is placed at its position on the shape."⟩,
   ⟨"mode", "Mode", none, .string,
    "The mode attribute defines the blending mode on the <feBlend> filter primitive."⟩,
   ⟨"k3", "K3", none, .string,
    "The k3 attribute defines one of the values to be used within the arithmetic operation of the <feComposite> filter primitive."⟩,
   ⟨"preserveAlpha", "Preservealpha", none, .string,
    "the preserveAlpha attribute indicates how a <feConvolveMatrix> element handles alpha transparency."⟩,
   ⟨"patternUnits", "Patternunits", none, .string,
    "The patternUnits attribute indicates which coordinate system to use for the geometry properties of the <pattern> element."⟩,
   ⟨"font-style", "FontStyle", some "font-style", .string,
    "The font-style attribute specifies whether the text is to be rendered using a normal, italic, or oblique face."⟩,
   ⟨"stop-color", "StopColor", some "stop-color", .attrValue,
    "The stop-color attribute indicates what color to use at a gradient stop."⟩,
   ⟨"z", "Z", none, .string,
    "The z attribute defines the location along the z-axis for a light source in the coordinate system established by the primitiveUnits attribute on the <filter> element, assuming that, in the initial coordinate system, the positive z-axis comes out towards the person viewing the content and assuming that one unit along the z-axis equals one unit in x and y."⟩,
   ⟨"baseProfile", "Baseprofile", none, .string,
    "Deprecated: This feature is no longer recommended. Though some browsers might still support it, it may have already been removed from the relevant web standards, may be in the process of being dropped, or may only be kept for compatibility purposes. Avoid using it, and update existing code if possible; see the compatibility table at the bottom of this page to guide your decision. Be aware that this feature may cease to work at any time."⟩,
   ⟨"points", "Points", none, .string,
    "The points attribute defines a list of points. Each point is defined by a pair of number representing a X and a Y coordinate in the user coordinate system. If the attribute contains an odd number of coordinates, the last one will be ignored."⟩,
   ⟨"attributeName", "Attributename", none, .string,
    "The attributeName attribute indicates the name of the CSS property or attribute of the target element that is going to be changed during an animation."⟩,
   ⟨"Events#document_event_attributes", "Events#Document_event_attributes", none, .attrValue,
    "Event attributes always have their name starting with \"on\" followed by the name of the event for which they are intended. They specifies some script to run when the event of the given type is dispatched to the element on which the attributes are specified."⟩,
   ⟨"begin", "Begin", none, .string,
    "The begin attribute defines when an animation should begin or when an element should be discarded."⟩,
   ⟨"targetX", "Targetx", none, .attrValue,
    "The targetX attribute determines the positioning in horizontal direction of the convolution matrix relative to a given target pixel in the input image. The leftmost column of the matrix is column number zero. The value must be such that: 0 <= targetX < order X."⟩,
   ⟨"Events#document_element_event_attributes", "Events#Document_element_event_attributes", none, .attrValue,
    "Event attributes always have their name starting with \"on\" followed by the name of the event for which they are intended. They specifies some script to run when the event of the given type is dispatched to the element on which the attributes are specified."⟩,
   ⟨"x1", "X1", none, .string,
    "The x1 attribute is used to specify the first x-coordinate for drawing an SVG element that requires more than one coordinate. Elements that only need one coordinate use the x attribute instead."⟩,
   ⟨"Events#graphical_event_attributes", "Events#Graphical_event_attributes", none, .attrValue,
    "Event attributes always have their name starting with \"on\" followed by the name of the event for which they are intended. They specifies some script to run when the event of the given type is dispatched to the element on which the attributes are specified."⟩,
   ⟨"color-interpolation", "ColorInterpolation", some "color-interpolation", .attrValue,
    "The color-interpolation attribute specifies the color space for gradient interpolations, color animations, and alpha compositing."⟩,
   ⟨"refX", "Refx", none, .attrValue,
    "The refX attribute defines the x coordinate of an element's reference point."⟩,
   ⟨"k4", "K4", none, .string,
    "The k4 attribute defines one of the values to be used within the arithmetic operation of the <feComposite> filter primitive."⟩,
   ⟨"Presentation", "Presentation", none, .attrValue,
    "SVG presentation attributes are CSS properties that can be used as attributes on SVG elements."⟩,
   ⟨"stroke-opacity", "StrokeOpacity", some "stroke-opacity", .string,
    "The stroke-opacity attribute is a presentation attribute defining the opacity of the paint server (color, gradient, pattern, etc.) applied to the stroke of a shape."⟩,
   ⟨"limitingConeAngle", "Limitingconeangle", none, .string,
    "The limitingConeAngle attribute represents the angle in degrees between the spot light axis (i.e. the axis between the light source and the point to which it is pointing at) and the spot light cone. So it defines a limiting cone which restricts the region where the light is projected. No light is projected outside the cone."⟩,
   ⟨"additive", "Additive", none, .attrValue,
    "The additive attribute controls whether or not an animation is additive."⟩,
   ⟨"stop-opacity", "StopOpacity", some "stop-opacity", .attrValue,
    "The stop-opacity attribute defines the opacity of a given color gradient stop."⟩,
   ⟨"requiredFeatures", "Requiredfeatures", none, .string,
    "Deprecated: This feature is no longer recommended. Though some browsers might still support it, it may have already been removed from the relevant web standards, may be in the process of being dropped, or may only be kept for compatibility purposes. Avoid using it, and update existing code if possible; see the compatibility table at the bottom of this page to guide your decision. Be aware that this feature may cease to work at any time."⟩,
   ⟨"clip-path", "ClipPath", some "clip-path", .string,
    "The clip-path presentation attribute defines or associates a clipping path with the element it is related to."⟩,
   ⟨"y2", "Y2", none, .string,
    "The y2 attribute is used to specify the second y-coordinate for drawing an SVG element that requires more than one coordinate. Elements that only need one coordinate use the y attribute instead."⟩,
   ⟨"flood-opacity", "FloodOpacity", some "flood-opacity", .string,
    "The flood-opacity attribute indicates the opacity value to use across the current filter primitive subregion."⟩,
   ⟨"type", "Type", none, .attrValue,
    "The type attribute is a generic attribute and it has different meaning based on the context in which it's used."⟩,
   ⟨"keySplines", "Keysplines", none, .string,
    "The keySplines attribute defines a set of Bézier curve control points associated with the keyTimes list, defining a cubic Bézier function that controls interval pacing."⟩,
   ⟨"class", "Class", none, .string, "« SVG Attribute reference home"⟩,
   ⟨"stroke-dashoffset", "StrokeDashoffset", some "stroke-dashoffset", .string,
    "The stroke-dashoffset attribute is a presentation attribute defining an offset on the rendering of the associated dash array."⟩,
   ⟨"y1", "Y1", none, .string,
    "The y1 attribute is used to specify the first y-coordinate for drawing an SVG element that requires more than one coordinate. Elements that only need one coordinate use the y attribute instead."⟩,
   ⟨"pathLength", "Pathlength", none, .string,
    "The pathLength attribute lets authors specify a total length for the path, in user units. This value is then used to calibrate the browser's distance calculations with those of the author, by scaling all distance computations using the ratio pathLength / (computed value of path length)."⟩,
   ⟨"diffuseConstant", "Diffuseconstant", none, .string,
    "The diffuseConstant attribute represents the kd value in the Phong lighting model. In SVG, this can be any non-negative number."⟩,
   ⟨"stroke-miterlimit", "StrokeMiterlimit", some "stroke-miterlimit", .string,
    "The stroke-miterlimit attribute is a presentation attribute defining a limit on the ratio of the miter length to the stroke-width used to draw a miter join. When the limit is exceeded, the join is converted from a miter to a bevel."⟩,
   ⟨"tabindex", "Tabindex", none, .string,
    "The tabindex attribute allows you to control whether an element is focusable and to define the relative order of the element for the purposes of sequential focus navigation."⟩,
   ⟨"end", "End", none, .string,
    "The end attribute defines an end value for the animation that can constrain the active duration."⟩,
   ⟨"startOffset", "Startoffset", none, .string,
    "The startOffset attribute defines an offset from the start of the path for the initial current text position along the path after converting the path to the <textPath> element's coordinate system."⟩,
   ⟨"font-family", "FontFamily", some "font-family", .string,
    "The font-family attribute indicates which font family will be used to render the text, specified as a prioritized list of font family names and/or generic family names."⟩,
   ⟨"targetY", "Targety", none, .attrValue,
    "The targetY attribute determines the positioning in vertical direction of the convolution matrix relative to a given target pixel in the input image. The topmost row of the matrix is row number zero. The value must be such that: 0 <= targetY < order Y."⟩,
   ⟨"Conditional_Processing", "Conditional_processing", none, .attrValue,
    "The SVG conditional processing attributes are all the attributes that can be specified on some SVG elements to control whether or not the element on which it appears should be rendered."⟩,
   ⟨"display", "Display", none, .string,
    "The display attribute lets you control the rendering of graphical or container elements."⟩,
   ⟨"shape-rendering", "ShapeRendering", some "shape-rendering", .string,
    "The shape-rendering attribute provides hints to the renderer about what tradeoffs to make when rendering shapes like paths, circles, or rectangles."⟩,
   ⟨"lang", "Lang", none, .string,
    "The lang attribute specifies the primary language used in contents and attributes containing text content of particular elements."⟩,
   ⟨"by", "By", none, .string,
    "The by attribute specifies a relative offset value for an attribute that will be modified during an animation."⟩,
   ⟨"filterUnits", "Filterunits", none, .attrValue,
    "The filterUnits attribute defines the coordinate system for the attributes x, y, width and height."⟩,
   ⟨"divisor", "Divisor", none, .string,
    "The divisor attribute specifies the value by which the resulting number of applying the kernelMatrix of a <feConvolveMatrix> element to the input image color value is divided to yield the destination color value."⟩,
   ⟨"max", "Max", none, .string,
    "The max attribute specifies the maximum value of the active animation duration."⟩,
   ⟨"yChannelSelector", "Ychannelselector", none, .string,
    "The yChannelSelector attribute indicates which color channel from in2 to use to displace the pixels in in along the y-axis."⟩,
   ⟨"stroke-linecap", "StrokeLinecap", some "stroke-linecap", .string,
    "The stroke-linecap attribute is a presentation attribute defining the shape to be used at the end of open subpaths when they are stroked."⟩,
   ⟨"vector-effect", "VectorEffect", some "vector-effect", .string,
    "The vector-effect property specifies the vector effect to use when drawing an object. Vector effects are applied before any of the other compositing operations, i.e. filters, masks and clips."⟩,
   ⟨"height", "Height", none, .string,
    "The height attribute defines the vertical length of an element in the user coordinate system."⟩,
   ⟨"stitchTiles", "Stitchtiles", none, .string,
    "The stitchTiles attribute defines how the Perlin Noise tiles behave at the border."⟩,
   ⟨"media", "Media", none, .string,
    "The media attribute specifies a media query that must be matched for a style sheet to apply."⟩,
   ⟨"clip-rule", "ClipRule", some "clip-rule", .string, "« SVG Attribute reference home"⟩,
   ⟨"ry", "Ry", none, .string, "The ry attribute defines a radius on the y-axis."⟩,
   ⟨"textLength", "Textlength", none, .string,
    "The textLength attribute, available on SVG <text> and <tspan> elements, lets you specify the width of the space into which the text will draw. The user agent will ensure that the text does not extend farther than that distance, using the method or methods specified by the lengthAdjust attribute. By default, only the spacing between characters is adjusted, but the glyph size can also be adjusted if you change lengthAdjust."⟩,
   ⟨"dur", "Dur", none, .string,
    "The dur attribute indicates the simple duration of an animation."⟩,
   ⟨"y", "Y", none, .string,
    "The y attribute defines a y-axis coordinate in the user coordinate system."⟩,
   ⟨"numOctaves", "Numoctaves", none, .string,
    "The numOctaves attribute defines the number of octaves for the noise function of the <feTurbulence> primitive."⟩,
   ⟨"restart", "Restart", none, .string,
    "The restart attribute specifies whether or not an animation can restart."⟩,
   ⟨"fill", "Fill", none, .string,
    "The fill attribute has two different meanings. For shapes and text it's a presentation attribute that defines the color (or any SVG paint servers like gradients or patterns) used to paint the element; for animation it defines the final state of the animation."⟩,
   ⟨"fill-opacity", "FillOpacity", some "fill-opacity", .string,
    "The fill-opacity attribute is a presentation attribute defining the opacity of the paint server (color, gradient, pattern, etc.) applied to a shape."⟩,
   ⟨"filter", "Filter", none, .string,
    "The filter attribute specifies the filter effects defined by the <filter> element that shall be applied to its element."⟩,
   ⟨"stroke", "Stroke", none, .string,
    "The stroke attribute is a presentation attribute defining the color (or any SVG paint servers like gradients or patterns) used to paint the outline of the shape;"⟩,
   ⟨"marker-end", "MarkerEnd", some "marker-end", .string,
    "The marker-end attribute defines the arrowhead or polymarker that will be drawn at the final vertex of the given shape."⟩,
   ⟨"markerWidth", "Markerwidth", none, .attrValue,
    "The markerWidth attribute represents the width of the viewport into which the <marker> is to be fitted when it is rendered according to the viewBox and preserveAspectRatio attributes."⟩,
   ⟨"azimuth", "Azimuth", none, .string,
    "The azimuth attribute specifies the direction angle for the light source on the XY plane (clockwise), in degrees from the x axis."⟩,
   ⟨"font-size", "FontSize", some "font-size", .string,
    "The font-size attribute refers to the size of the font from baseline to baseline when multiple lines of text are set solid in a multiline layout environment."⟩,
   ⟨"mask", "Mask", none, .string,
    "The mask attribute is a presentation attribute mainly used to bind a given <mask> element with the element the attribute belongs to."⟩,
   ⟨"visibility", "Visibility", none, .string,
    "The visibility attribute lets you control the visibility of graphical elements. With a value of hidden or collapse the current graphics element is invisible."⟩,
   ⟨"From", "From", none, .attrValue,
    "The from attribute indicates the initial value of the attribute that will be modified during the animation."⟩,
   ⟨"font-weight", "FontWeight", some "font-weight", .string,
    "The font-weight attribute refers to the boldness or lightness of the glyphs used to render the text, relative to other fonts in the same font family."⟩,
   ⟨"in2", "In2", none, .attrValue,
    "The in2 attribute identifies the second input for the given filter primitive. It works exactly like the in attribute."⟩,
   ⟨"color-rendering", "ColorRendering", some "color-rendering", .attrValue, ""⟩,
   ⟨"offset", "Offset", none, .attrValue, ""⟩,
   ⟨"title", "Title", none, .attrValue, ""⟩,
   ⟨"requiredExtensions", "Requiredextensions", none, .attrValue, ""⟩]

end TypedMarkup
