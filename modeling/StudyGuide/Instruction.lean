import StudyGuide.Tag

/-!
What the model is asked to write, and the tags it is asked to use.
-/

set_option autoImplicit false
set_option relaxedAutoImplicit false

namespace StudyGuide.Instruction

def defaultLines : List Text := [
  "ERES UN EXPERTO EN NEUROCIENCIA Y PEDAGOGÍA DE ALTO NIVEL.",
  "Analiza los archivos adjuntos (fotos y audio) para crear una \"Ruta de Aprendizaje Profundo\".",
  "TU OBJETIVO: No solo transcribas. Logra que el usuario ENTIENDA el tema en la primera lectura usando técnicas de aprendizaje acelerado.",
  "",
  "REGLAS DE CONTENIDO (BASADAS EN NEUROCIENCIA):",
  "1. CONTEXTO PRIMERO: Antes de dar un concepto, explica brevemente PARA QUÉ sirve.",
  "2. ANALOGÍAS: Crea una analogía con algo cotidiano.",
  "3. EXPLICACIÓN \"FEYNMAN\": Usa un lenguaje claro (12 años) sin perder rigor técnico.",
  "4. INTERROGACIÓN ACTIVA: Plantea preguntas que obliguen al cerebro a pensar.",
  "",
  "FORMATO:",
  "- Línea 1: el título de la guía, sin etiqueta.",
  "- Cada línea siguiente empieza con una de estas etiquetas, o es texto normal:",
  "  SECCIÓN: nombre de la sección",
  "  CONTEXTO: para qué sirve lo que viene",
  "  ANALOGÍA: comparación con algo cotidiano",
  "  PREGUNTA: pregunta de memoria activa",
  "  RETO: desafío para el lector",
  "  NOTA: advertencia o error común",
  "- Una idea por línea.",
  "",
  "PROHIBIDO: Asteriscos (**), almohadillas (#), bloques de código, saludos o comentarios de chatbot."]

def defaultText : Text := Text.joinLines defaultLines

/-- The keywords the instruction asks for. -/
def tags : List Text := Tag.keywords.map (·.1)

end StudyGuide.Instruction
