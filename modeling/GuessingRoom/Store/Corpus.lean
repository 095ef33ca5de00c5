import GuessingRoom.Model

/-!
# The words

The corpus with which a new database begins.
-/

namespace GuessingRoom

def corpus : List Word :=
  [⟨"w01", "apple", "🍎"⟩, ⟨"w02", "sunflower", "☀️🌸"⟩, ⟨"w03", "rainbow", "🌧️☀️"⟩,
    ⟨"w04", "snowman", "❄️👨"⟩, ⟨"w05", "firefighter", "🔥🧑‍🚒"⟩, ⟨"w06", "honeybee", "🍯🐝"⟩,
    ⟨"w07", "starfish", "⭐🐟"⟩, ⟨"w08", "popcorn", "💥🌽"⟩, ⟨"w09", "moonlight", "🌙💡"⟩,
    ⟨"w10", "keyboard", "🔑🛹"⟩, ⟨"w11", "butterfly", "🧈🪰"⟩, ⟨"w12", "hotdog", "🔥🐶"⟩,
    ⟨"w13", "football", "🦶⚽"⟩, ⟨"w14", "cupcake", "☕🎂"⟩, ⟨"w15", "earthquake", "🌍🫨"⟩,
    ⟨"w16", "lighthouse", "💡🏠"⟩, ⟨"w17", "toothbrush", "🦷🪥"⟩, ⟨"w18", "pineapple", "🌲🍎"⟩,
    ⟨"w19", "sandcastle", "🏖️🏰"⟩, ⟨"w20", "snowball", "❄️⚽"⟩, ⟨"w21", "ice cream", "🧊🍦"⟩,
    ⟨"w22", "rocket ship", "🚀🚢"⟩, ⟨"w23", "bookworm", "📚🪱"⟩, ⟨"w24", "jellyfish", "🍮🐟"⟩,
    ⟨"w25", "cowboy", "🐄👦"⟩, ⟨"w26", "sunglasses", "☀️👓"⟩, ⟨"w27", "doghouse", "🐶🏠"⟩,
    ⟨"w28", "waterfall", "💧🍂"⟩, ⟨"w29", "spider-man", "🕷️👨"⟩,
    ⟨"w30", "time machine", "⏰⚙️"⟩]

end GuessingRoom
