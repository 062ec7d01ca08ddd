/-!
The words that random texts are drawn from.
-/

namespace Assay.Draw

/-- Two hundred different lower-case words. -/
def dictionary : Array String := #[
    "apple", "banana", "cherry", "orange", "grape", "lemon", "melon", "peach", "pear", "plum",
    "mango", "kiwi", "river", "mountain", "forest", "desert", "ocean", "island", "valley", "canyon",
    "meadow", "glacier", "house", "window", "garden", "bridge", "castle", "tower", "harbor",
    "market", "school", "library", "red", "blue", "green", "yellow", "purple", "silver", "golden",
    "black", "white", "brown", "cat", "dog", "horse", "tiger", "lion", "eagle", "falcon", "rabbit",
    "turtle", "dolphin", "spring", "summer", "autumn", "winter", "morning", "evening", "night",
    "sunrise", "sunset", "storm", "book", "paper", "pencil", "letter", "story", "poem", "novel",
    "chapter", "page", "word", "stone", "metal", "glass", "wood", "cotton", "silk", "leather",
    "copper", "iron", "marble", "happy", "quiet", "brave", "gentle", "clever", "honest", "lucky",
    "calm", "proud", "swift", "table", "chair", "lamp", "clock", "mirror", "carpet", "pillow",
    "blanket", "candle", "basket", "train", "plane", "ship", "bicycle", "rocket", "wagon", "engine",
    "wheel", "anchor", "sail", "music", "dance", "song", "rhythm", "melody", "piano", "violin",
    "guitar", "drum", "flute", "cloud", "rain", "snow", "thunder", "wind", "fog", "frost", "breeze",
    "rainbow", "shadow", "bread", "cheese", "butter", "honey", "sugar", "salt", "pepper", "rice",
    "noodle", "soup", "friend", "family", "neighbor", "teacher", "doctor", "farmer", "sailor",
    "artist", "pilot", "judge", "number", "circle", "square", "triangle", "vector", "matrix",
    "graph", "tree", "array", "string", "planet", "comet", "galaxy", "star", "moon", "orbit",
    "nebula", "meteor", "crater", "cosmos", "coffee", "tea", "juice", "water", "milk", "cocoa",
    "cider", "lemonade", "syrup", "broth", "north", "south", "east", "west", "center", "border",
    "corner", "edge", "middle", "origin", "kingdom", "empire", "village", "city", "county",
    "nation", "province", "capital"]

end Assay.Draw
